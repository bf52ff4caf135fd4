import Mathlib.Data.List.TakeDrop
import TypedSeries.Proofs.MemoryMachine

/-!
# The times of batches

The records of a batch get the time of writing and a nanosecond more for each record before. What
this does for batches that are written close to each other, and for a query close to a batch.

1. Two points that are sent collide if they have one measurement, one set of tags and one
   timestamp (`Point.identity`). Within a batch none do, and two batches collide where one reaches
   into the other at a record of the same series (`Addition.forall_identity_ne_iff`).
2. The records of a batch in a window that holds the time of writing are those in front
   (`filter_stamp`).

**Main.** `Addition.distinct_identities_iff`: which batches can be written one after another with
no two points colliding. `Session.reads_front`: how much of a batch a query within the hour reads.
-/

namespace TypedSeries

/-! ## Times within 64 bits -/

theorem toInt_ofIntClamp_eq (x : Int) :
    (Int64.ofIntClamp x).toInt = max (-2 ^ 63) (min x (2 ^ 63 - 1)) := by
  have hmin : Int64.minValue.toInt = -2 ^ 63 := rfl
  have hmax : Int64.maxValue.toInt = 2 ^ 63 - 1 := rfl
  unfold Int64.ofIntClamp
  split
  next hl =>
    split
    next hr => rw [Int64.toInt_ofIntLE]; omega
    next => omega
  next => omega

theorem ofIntClamp_le_iff (x : Int) (t : Int64) :
    Int64.ofIntClamp x ≤ t ↔ x ≤ t.toInt ∨ t = Int64.maxValue := by
  have hlo := t.minValue_le_toInt
  have hhi := t.toInt_le
  have hmin : Int64.minValue.toInt = -2 ^ 63 := rfl
  have hmax : Int64.maxValue.toInt = 2 ^ 63 - 1 := rfl
  rw [Int64.le_iff_toInt_le, toInt_ofIntClamp_eq, ← Int64.toInt_inj]
  omega

theorem le_ofIntClamp {x : Int} {t : Int64} (h : t.toInt ≤ x) : t ≤ Int64.ofIntClamp x := by
  have hhi := t.toInt_lt
  rw [Int64.le_iff_toInt_le, toInt_ofIntClamp_eq]
  omega

/-! ## Points and what tells them apart -/

namespace Point

/-- What a store tells points apart by: the measurement with the tags, and the timestamp. -/
def identity (p : Point) : (String × NameMap String) × Option Int64 :=
  ((p.measurement, p.tags), p.timestamp)

theorem placeField_with_timestamp (row : Row) (p : Point) (f : Field) (ts : Option Int64) :
    placeField row { p with timestamp := ts } f = { placeField row p f with timestamp := ts } := by
  unfold placeField
  cases row.get? f.name with
  | none => rfl
  | some v =>
    cases f.role with
    | measurement => rfl
    | tag =>
      dsimp only
      split <;> rfl
    | field => rfl

theorem foldl_placeField_with_timestamp (row : Row) (fs : List Field) (p : Point)
    (ts : Option Int64) : fs.foldl (placeField row) { p with timestamp := ts } =
      { fs.foldl (placeField row) p with timestamp := ts } := by
  induction fs generalizing p with
  | nil => rfl
  | cons f fs ih => rw [List.foldl_cons, List.foldl_cons, placeField_with_timestamp, ih]

end Point

/-- The measurement and the tags of the points of a record. -/
def RecordType.series (t : RecordType) (row : Row) : String × NameMap String :=
  ((Point.ofRow t row none).measurement, (Point.ofRow t row none).tags)

theorem Point.identity_ofRow (t : RecordType) (row : Row) (ts : Option Int64) :
    (ofRow t row ts).identity = (t.series row, ts) := by
  have h : ofRow t row ts = { ofRow t row none with timestamp := ts } :=
    foldl_placeField_with_timestamp row t.fields ⟨t.name, .empty, .empty, none⟩ ts
  rw [h]
  rfl

/-! ## Batches one after another -/

/-- A batch of records added through a handle, and the reading of the clock it is added at. One
record added by itself is a batch of one. -/
structure Addition where
  handle : Handle
  records : List Row
  now : Int64

namespace Addition

/-- The points that a batch sends to the transport. -/
def points (a : Addition) : List Point := Point.ofBatch a.handle.recordType a.records a.now

/-- The points of batches, as they are sent. -/
def sent (as : List Addition) : List Point := as.flatMap points

/-- A store after a batch is added. -/
def perform (s : Store) (a : Addition) : Store := (a.handle.addAll a.records a.now s).2

/-- The series of the records of a batch. -/
def series (a : Addition) : List (String × NameMap String) :=
  a.records.map a.handle.recordType.series

/-- The time of one record of a batch. -/
def time (a : Addition) (i : Nat) : Int64 := .ofIntClamp (a.now.toInt + i)

/-- The times of a batch end before the largest. -/
def Fits (a : Addition) : Prop := a.now.toInt + a.records.length ≤ Int64.maxValue.toInt

/-- A batch is over when another starts: the clock has gone on by a nanosecond for each record. -/
def Before (a b : Addition) : Prop := a.now.toInt + a.records.length ≤ b.now.toInt

/-- Where a batch reaches into another that starts later, the two have different series record
for record. -/
def Apart (a b : Addition) : Prop :=
  ∀ p ∈ (a.series.drop (b.now.toInt - a.now.toInt).toNat).zip b.series, p.1 ≠ p.2

instance : DecidablePred Fits := fun _ => inferInstanceAs (Decidable (_ ≤ _))

instance : DecidableRel Before := fun _ _ => inferInstanceAs (Decidable (_ ≤ _))

instance : DecidableRel Apart := fun _ _ => inferInstanceAs (Decidable (∀ p ∈ _, _))

variable {a b : Addition} {as : List Addition}

theorem toInt_time (h : a.Fits) {i : Nat} (hi : i < a.records.length) :
    (a.time i).toInt = a.now.toInt + i := by
  have hlo := a.now.le_toInt
  have hmax : Int64.maxValue.toInt = 2 ^ 63 - 1 := rfl
  unfold Fits at h
  rw [time, toInt_ofIntClamp_eq]
  omega

/-- Times within 64 bits are equal as readings and places in the batch add up. -/
theorem time_eq_iff (ha : a.Fits) (hb : b.Fits) {i j : Nat} (hi : i < a.records.length)
    (hj : j < b.records.length) : a.time i = b.time j ↔ a.now.toInt + i = b.now.toInt + j := by
  rw [← Int64.toInt_inj, toInt_time ha hi, toInt_time hb hj]

theorem identity_points (a : Addition) :
    a.points.map Point.identity = a.series.mapIdx fun i key => (key, some (a.time i)) := by
  refine List.ext_getElem? fun i => ?_
  rw [points, Point.ofBatch, series, List.getElem?_map, List.getElem?_mapIdx, List.getElem?_mapIdx,
    List.getElem?_map]
  cases a.records[i]? with
  | none => rfl
  | some row => exact congrArg some (Point.identity_ofRow _ _ _)

theorem timestamp_points (a : Addition) :
    a.points.map Point.timestamp = (List.range a.records.length).map fun i => some (a.time i) := by
  have h : Point.timestamp = Prod.snd ∘ Point.identity := rfl
  rw [h, ← List.map_map, identity_points]
  refine List.ext_getElem (by simp [series]) fun i _ _ => ?_
  simp

theorem lt_length_of_series {i : Nat} {key : String × NameMap String}
    (h : a.series[i]? = some key) : i < a.records.length := by
  obtain ⟨hi, -⟩ := List.getElem?_eq_some_iff.1 h
  rwa [series, List.length_map] at hi

theorem mem_identity_points {x : (String × NameMap String) × Option Int64} :
    x ∈ a.points.map Point.identity ↔
      ∃ i key, a.series[i]? = some key ∧ x = (key, some (a.time i)) := by
  rw [identity_points, List.mem_iff_getElem?]
  simp only [List.getElem?_mapIdx, Option.map_eq_some_iff, eq_comm (a := x)]

/-- What is read of the points of batches is distinct if it is so within each batch and between
any two. -/
theorem nodup_map_sent_iff {β : Type} (read : Point → β) : ((sent as).map read).Nodup ↔
    (∀ a ∈ as, (a.points.map read).Nodup) ∧
      as.Pairwise fun a b => ∀ x ∈ a.points.map read, ∀ y ∈ b.points.map read, x ≠ y := by
  rw [sent, List.map_flatMap, List.Nodup, List.pairwise_flatMap]

theorem nodup_timestamp_points (h : a.Fits) : (a.points.map Point.timestamp).Nodup := by
  rw [timestamp_points]
  refine List.nodup_range.map_on fun i hi j hj hij => ?_
  have hi := List.mem_range.1 hi
  have htime := (time_eq_iff h h hi (List.mem_range.1 hj)).1 (Option.some.inj hij)
  omega

theorem nodup_identity_points (h : a.Fits) : (a.points.map Point.identity).Nodup := by
  have htimes := nodup_timestamp_points h
  have hcomp : Point.timestamp = Prod.snd ∘ Point.identity := rfl
  rw [hcomp, ← List.map_map] at htimes
  exact htimes.of_map

/-- Two batches collide where their records meet in time and are of one series. -/
theorem forall_identity_ne_iff (ha : a.Fits) (hb : b.Fits) (hlt : a.now < b.now) :
    (∀ x ∈ a.points.map Point.identity, ∀ y ∈ b.points.map Point.identity, x ≠ y) ↔
      a.Apart b := by
  have hnow := Int64.lt_iff_toInt_lt.1 hlt
  constructor
  case mp =>
    intro hne p hp heq
    obtain ⟨j, hj⟩ := List.mem_iff_getElem?.1 hp
    obtain ⟨hx, hy⟩ := List.getElem?_zip_eq_some.1 hj
    rw [List.getElem?_drop] at hx
    -- the clock has gone on by as much as the first batch is further on
    have htime := (time_eq_iff ha hb (lt_length_of_series hx) (lt_length_of_series hy)).2 (by omega)
    refine hne _ (mem_identity_points.2 ⟨_, _, hx, rfl⟩) _
      (mem_identity_points.2 ⟨_, _, hy, rfl⟩) ?_
    rw [heq, htime]
  case mpr =>
    intro hapart x hx y hy heq
    obtain ⟨i, key, hi, rfl⟩ := mem_identity_points.1 hx
    obtain ⟨j, key', hj, rfl⟩ := mem_identity_points.1 hy
    obtain ⟨rfl, htime⟩ := Prod.mk.inj heq
    have htime := (time_eq_iff ha hb (lt_length_of_series hi) (lt_length_of_series hj)).1
      (Option.some.inj htime)
    refine hapart (key, key) (List.mem_of_getElem? (i := j) ?_) rfl
    refine List.getElem?_zip_eq_some.2 ⟨?_, hj⟩
    rwa [List.getElem?_drop, show (b.now.toInt - a.now.toInt).toNat + j = i by omega]

/-- The times of a batch that is over come before those of the next. -/
theorem Before.timestamp_ne (h : a.Before b) (ha : a.Fits) (hb : b.Fits) :
    ∀ x ∈ a.points.map Point.timestamp, ∀ y ∈ b.points.map Point.timestamp, x ≠ y := by
  intro x hx y hy heq
  rw [timestamp_points] at hx hy
  obtain ⟨i, hi, rfl⟩ := List.mem_map.1 hx
  obtain ⟨j, hj, rfl⟩ := List.mem_map.1 hy
  have hi := List.mem_range.1 hi
  have htime := (time_eq_iff ha hb hi (List.mem_range.1 hj)).1 (Option.some.inj heq)
  unfold Before at h
  omega

/-- Batches of a single series are apart only if one is over when the other starts. -/
theorem apart_iff_before {key : String × NameMap String} (ha : ∀ k ∈ a.series, k = key)
    (hb : ∀ k ∈ b.series, k = key) (hne : b.records ≠ []) (hlt : a.now < b.now) :
    a.Apart b ↔ a.Before b := by
  have hnow := Int64.lt_iff_toInt_lt.1 hlt
  have hlength : a.series.length = a.records.length := List.length_map _
  constructor
  case mp =>
    intro h
    by_contra hover
    unfold Before at hover
    -- the first record of the later batch meets one of the earlier batch
    obtain ⟨x, hx⟩ : ∃ x, (a.series.drop (b.now.toInt - a.now.toInt).toNat)[0]? = some x :=
      ⟨_, by rw [List.getElem?_drop]; exact List.getElem?_eq_getElem (by omega)⟩
    obtain ⟨y, hy⟩ : ∃ y, b.series[0]? = some y := by
      have := List.length_pos_of_ne_nil hne
      exact ⟨_, List.getElem?_eq_getElem (by rw [series, List.length_map]; exact this)⟩
    refine h (x, y) (List.mem_of_getElem? (List.getElem?_zip_eq_some.2 ⟨hx, hy⟩)) ?_
    rw [ha x (List.mem_of_mem_drop (List.mem_of_getElem? hx)), hb y (List.mem_of_getElem? hy)]
  case mpr =>
    intro h p hp
    unfold Before at h
    rw [List.drop_of_length_le (by omega), List.zip_nil_left] at hp
    cases hp

/-- Relations that agree wherever a third holds between elements of a list agree on the list. -/
theorem pairwise_iff_of {α : Type} {R S T : α → α → Prop} {l : List α} (hT : l.Pairwise T)
    (h : ∀ a ∈ l, ∀ b ∈ l, T a b → (R a b ↔ S a b)) : l.Pairwise R ↔ l.Pairwise S := by
  constructor
  case mp => exact fun hR => (hR.and hT).imp_of_mem fun ha hb hab => (h _ ha _ hb hab.2).1 hab.1
  case mpr => exact fun hS => (hS.and hT).imp_of_mem fun ha hb hab => (h _ ha _ hb hab.2).2 hab.1

/-- A bucket in memory gains the points that are sent, each after the ones before. -/
theorem foldl_perform_memory {bucket : String} (hname : ∀ a ∈ as, a.handle.name = bucket)
    {s : Store} {m : MemoryStore} {b : Bucket} (hm : s.transport = .memory m)
    (hb : NameMap.get? m bucket = some b) (later : Int64) :
    ∃ m', (as.foldl perform s).transport = .memory m' ∧ NameMap.get? m' bucket =
      some { b with rows := b.rows ++ (sent as).map (·.toRow later) } := by
  induction as generalizing s m b with
  | nil => exact ⟨m, hm, by rw [hb, sent, List.flatMap_nil, List.map_nil, List.append_nil]⟩
  | cons a as ih =>
    obtain rfl := hname a List.mem_cons_self
    obtain ⟨m₁, hadd, hb₁⟩ := a.handle.addAll_memory hm hb a.records a.now
    have hs : (perform s a).transport = .memory m₁ := by rw [perform, hadd]
    obtain ⟨m', hm', hb'⟩ := ih (fun a ha => hname a (List.mem_cons_of_mem _ ha)) hs hb₁
    refine ⟨m', hm', hb'.trans ?_⟩
    rw [← toRow_ofBatch _ _ _ later, List.append_assoc, ← points, ← List.map_append, sent, sent,
      List.flatMap_cons]

/-- **Batches one after another.** Let batches be added to one bucket, the clock going on between
any two of them. The points sent, which a store in memory keeps one and all, have distinct
identities exactly if any two batches are apart. They are where each batch is over before the next
starts, when even the timestamps are distinct; and records of one series collide unless it is
so. -/
theorem distinct_identities_iff {bucket : String} (hname : ∀ a ∈ as, a.handle.name = bucket)
    (hlt : as.Pairwise fun a b => a.now < b.now) (hfits : ∀ a ∈ as, a.Fits) {s : Store}
    {m : MemoryStore} {b : Bucket} (hm : s.transport = .memory m)
    (hb : NameMap.get? m bucket = some b) (later : Int64) :
    (∃ m', (as.foldl perform s).transport = .memory m' ∧ NameMap.get? m' bucket =
      some { b with rows := b.rows ++ (sent as).map (·.toRow later) }) ∧
      (∀ a ∈ as, (a.points.map Point.timestamp).Nodup) ∧
      (((sent as).map Point.identity).Nodup ↔ as.Pairwise Apart) ∧
      (as.Pairwise Before → ((sent as).map Point.timestamp).Nodup) ∧
      ∀ key, (∀ a ∈ as, a.records ≠ [] ∧ ∀ k ∈ a.series, k = key) →
        (((sent as).map Point.identity).Nodup ↔ as.Pairwise Before) := by
  have hiff : ((sent as).map Point.identity).Nodup ↔ as.Pairwise Apart := by
    rw [nodup_map_sent_iff, and_iff_right fun a ha => nodup_identity_points (hfits a ha)]
    exact pairwise_iff_of hlt fun a ha b hb hab =>
      forall_identity_ne_iff (hfits a ha) (hfits b hb) hab
  refine ⟨foldl_perform_memory hname hm hb later, fun a ha => nodup_timestamp_points (hfits a ha),
    hiff, fun hbefore => ?_, fun key hkey => ?_⟩
  · refine (nodup_map_sent_iff _).2 ⟨fun a ha => nodup_timestamp_points (hfits a ha), ?_⟩
    exact hbefore.imp_of_mem fun ha hb hab => hab.timestamp_ne (hfits _ ha) (hfits _ hb)
  · refine hiff.trans (pairwise_iff_of hlt fun a ha b hb hab => ?_)
    exact apart_iff_before (hkey a ha).2 (hkey b hb).2 (hkey b hb).1 hab

/-- Two rooms added at once, and a room again as the clock has gone on by one nanosecond. -/
def crowded (wing : String) : List Addition :=
  [⟨roomType.handle, [roomRow 9 "west" .nan, roomRow 9 wing (.zero true)], 5⟩,
    ⟨roomType.handle, [roomRow 9 "west" .nan], 6⟩]

theorem distinct_identities_crowded :
    (∀ a ∈ crowded "east", a.handle.name = "room") ∧
      ((crowded "east").Pairwise fun a b => a.now < b.now) ∧ (∀ a ∈ crowded "east", a.Fits) ∧
      roomStore.transport = .memory (NameMap.empty.insert "room"
        ⟨roomType.schema, [roomRow 1 "a" .nan, .empty]⟩) ∧
      ¬ (crowded "east").Pairwise Before ∧
      ((sent (crowded "east")).map Point.identity).Nodup := by
  have hname : ∀ a ∈ crowded "east", a.handle.name = "room" := by decide +kernel
  have hlt : (crowded "east").Pairwise fun a b => a.now < b.now := by decide +kernel
  have hfits : ∀ a ∈ crowded "east", a.Fits := by decide +kernel
  obtain ⟨-, -, hiff, -⟩ := distinct_identities_iff hname hlt hfits (s := roomStore) rfl rfl 0
  exact ⟨hname, hlt, hfits, rfl, by decide +kernel, hiff.2 (by decide +kernel)⟩

/-- The clock has gone on between the batches and is far from its end, but two rooms of one wing
take more than the nanosecond that has passed. -/
theorem identities_collide_crowded :
    (∀ a ∈ crowded "west", a.handle.name = "room") ∧
      ((crowded "west").Pairwise fun a b => a.now < b.now) ∧
      (∀ a ∈ crowded "west", a.now.toInt + ((crowded "west").map (·.records.length)).sum ≤
        Int64.maxValue.toInt) ∧
      ¬ ((sent (crowded "west")).map Point.identity).Nodup := by
  decide +kernel

end Addition

/-! ## A query close to a batch -/

/-- What passes a test is the front of a list if the test passes exactly there. -/
theorem filter_eq_take {α : Type} {p : α → Bool} {l : List α} {n : Nat}
    (h : ∀ i (hi : i < l.length), p l[i] = true ↔ i < n) : l.filter p = l.take n := by
  have hfront : (l.take n).filter p = l.take n := by
    refine List.filter_eq_self.2 fun x hx => ?_
    obtain ⟨i, hi, rfl⟩ := List.mem_iff_getElem.1 hx
    rw [List.length_take] at hi
    rw [List.getElem_take]
    exact (h i (by omega)).2 (by omega)
  have hrest : (l.drop n).filter p = [] := by
    refine List.filter_eq_nil_iff.2 fun x hx hp => ?_
    obtain ⟨i, hi, rfl⟩ := List.mem_iff_getElem.1 hx
    rw [List.length_drop] at hi
    rw [List.getElem_drop] at hp
    have := (h (n + i) (by omega)).1 hp
    omega
  conv_lhs => rw [← List.take_append_drop n l]
  rw [List.filter_append, hfront, hrest, List.append_nil]

theorem map_snd_stamp (now : Int64) (rows : List Row) : (stamp now rows).map Prod.snd = rows := by
  refine List.ext_getElem? fun i => ?_
  rw [stamp, List.getElem?_map, List.getElem?_mapIdx]
  cases rows[i]? <;> rfl

/-- The records of a batch up to a later time are those in front: all of them at the end of time,
and else one more than there are nanoseconds in between. -/
theorem filter_stamp {start w q : Int64} (hstart : start ≤ w) (hwq : w ≤ q) (rows : List Row) :
    ((stamp w rows).filter fun e => start ≤ e.1 ∧ e.1 ≤ q).map Prod.snd =
      rows.take (if q = Int64.maxValue then rows.length else (q.toInt - w.toInt + 1).toNat) := by
  have hwq := Int64.le_iff_toInt_le.1 hwq
  rw [filter_eq_take, List.map_take, map_snd_stamp]
  intro i hi
  have hlength : (stamp w rows).length = rows.length := List.length_mapIdx
  have hget : (stamp w rows)[i].1 = Int64.ofIntClamp (w.toInt + i) := by
    simp only [stamp, List.getElem_mapIdx]
  have hle : start ≤ Int64.ofIntClamp (w.toInt + i) :=
    Int64.le_trans hstart (le_ofIntClamp (by omega))
  rw [hget, decide_eq_true_iff, and_iff_right hle, ofIntClamp_le_iff]
  split
  next hq => simp only [hq, or_true, true_iff]; omega
  next hq => simp only [hq, or_false]; omega

/-- A query without a range goes back an hour. -/
theorem standard_start_le {w q : Int64} (h : q.toInt ≤ w.toInt + 3600000000000) :
    Range.standard.start q ≤ w := by
  have hreach : Range.standard.reach = 3600000000000 := by decide +kernel
  rw [Range.start, hreach, ofIntClamp_le_iff]
  omega

namespace Session

variable {s : Session} {d : Declaration} {h : Handle} {schema : Schema} {q : Int64}

theorem history_append (steps more : List (Int64 × Command)) : s.history d (steps ++ more) =
    s.history d steps ++ (s.run steps).history d more := by
  induction steps generalizing s with
  | nil => rfl
  | cons step steps ih =>
    obtain ⟨now, c⟩ := step
    rw [List.cons_append, history, history, ih, List.append_assoc]
    rfl

/-- The records written whose time a query without a range admits. -/
def recent (q : Int64) (es : List (Int64 × Row)) : List Row :=
  (es.filter fun e => Range.standard.start q ≤ e.1 ∧ e.1 ≤ q).map Prod.snd

theorem recent_append (q : Int64) (es fs : List (Int64 × Row)) :
    recent q (es ++ fs) = recent q es ++ recent q fs := by
  rw [recent, List.filter_append, List.map_append]
  rfl

/-- A select over everything gives what is recent of the history. -/
theorem execute_select (hs : s.Reachable) (hb : s.Holds h.name ⟨schema, []⟩)
    {steps : List (Int64 × Command)} (hc : s.RespectsRun h.declaration steps) {key : String}
    {place : Nat} (hk : (s.run steps).handles.get? key = some (place, h)) (q : Int64) :
    ((s.run steps).perform q (.handle key (.execute h.declaration.select))).1 =
      .ok (.records (recent q (s.history h.declaration steps))) := by
  obtain ⟨m, hm, -⟩ := holds_history hs hb hc
  have hp : h.declaration.Selects h.declaration.select := .all
  rw [perform_execute hk hm hp.amount_nonneg rfl, perform_query_run hs hb hc hk hp q]
  refine congrArg (fun es => Except.ok (Answer.records (List.map Prod.snd es))) ?_
  exact List.filter_congr fun e _ => by simp [Declaration.select, Plan.ofBucket]

/-- **A batch and a query after it.** Let a bucket, at first empty, be written to through handles
of one declaration only, a batch of records among the rest. A select over everything that is run
at the time of the batch or up to an hour later gives, between what is recent of the records
before and after, the front of the batch: one more record than there are nanoseconds in between,
or all of it at the end of time. -/
theorem reads_front (hs : s.Reachable) (hb : s.Holds h.name ⟨schema, []⟩)
    {earlier later : List (Int64 × Command)} {w : Int64} {source : String} {rows : List Row}
    (hc : s.RespectsRun h.declaration
      (earlier ++ (w, .handle source (.addAll rows)) :: later))
    {place₀ : Nat} {h₀ : Handle} (hsource : (s.run earlier).handles.get? source = some (place₀, h₀))
    (hd : h₀.declaration = h.declaration) (hrows : ∀ row ∈ rows, h.declaration.IsRecord row)
    {key : String} {place : Nat}
    (hk : (s.run (earlier ++ (w, .handle source (.addAll rows)) :: later)).handles.get? key =
      some (place, h))
    (hwq : w ≤ q) (hq : q.toInt ≤ w.toInt + 3600000000000) :
    let n := if q = Int64.maxValue then rows.length else (q.toInt - w.toInt + 1).toNat
    ((s.run (earlier ++ (w, .handle source (.addAll rows)) :: later)).perform q
        (.handle key (.execute h.declaration.select))).1 =
      .ok (.records (recent q (s.history h.declaration earlier) ++ rows.take n ++
        recent q ((s.run (earlier ++ [(w, .handle source (.addAll rows))])).history
          h.declaration later))) ∧
      (rows.take n = rows ↔ q = Int64.maxValue ∨ rows.length ≤ q.toInt - w.toInt + 1) := by
  intro n
  constructor
  case left =>
    have hwritten : (s.run earlier).written h.declaration w (.handle source (.addAll rows)) =
        stamp w rows := by
      simp only [written, hsource, hd, if_true]
      exact Declaration.batch_of_isRecord hrows w
    rw [execute_select hs hb hc hk, history_append, history, hwritten, recent_append, recent_append,
      ← List.append_assoc, recent, recent, filter_stamp (standard_start_le hq) hwq, run_append]
    rfl
  case right =>
    have hwq := Int64.le_iff_toInt_le.1 hwq
    rw [List.take_eq_self_iff]
    by_cases hmax : q = Int64.maxValue
    · simp only [n, if_pos hmax, hmax, true_or, le_refl]
    · simp only [n, if_neg hmax, hmax, false_or]
      omega

end Session

/-! ## Two rooms at once -/

def twoRooms : List Row := [roomRow 9 "west" .nan, roomRow 10 "east" (.zero true)]

/-- A handle of rooms is bound, and two rooms are added. -/
def twoRoomsSteps : List (Int64 × Command) :=
  roomSteps.take 1 ++ [(5, .handle "rooms" (.addAll twoRooms))]

theorem respectsRun_twoRoomsSteps :
    roomSession.RespectsRun roomType.handle.declaration twoRoomsSteps :=
  ⟨.inl trivial, .inr ⟨_, _, 0, roomType.handle, rfl, rfl, rfl⟩, trivial⟩

theorem isRecord_twoRooms : ∀ row ∈ twoRooms, roomType.handle.declaration.IsRecord row := by
  have hread : ∀ row ∈ twoRooms, roomType.handle.declaration.readRecord row = .ok row := by
    decide +kernel
  exact fun row hr => Declaration.isRecord_of_readRecord roomType.handle.declared (hread row hr)

theorem handle_twoRoomsSteps :
    (roomSession.run twoRoomsSteps).handles.get? "rooms" = some (0, roomType.handle) := rfl

theorem reads_front_twoRooms :
    roomSession.Reachable ∧ roomSession.Holds roomType.handle.name ⟨roomType.schema, []⟩ ∧
      roomSession.RespectsRun roomType.handle.declaration twoRoomsSteps ∧
      (roomSession.run (roomSteps.take 1)).handles.get? "rooms" = some (0, roomType.handle) ∧
      (∀ row ∈ twoRooms, roomType.handle.declaration.IsRecord row) ∧
      (roomSession.run twoRoomsSteps).handles.get? "rooms" = some (0, roomType.handle) ∧
      ((roomSession.run twoRoomsSteps).perform 6
        (.handle "rooms" (.execute roomType.handle.declaration.select))).1 =
          .ok (.records twoRooms) := by
  obtain ⟨hread, hall⟩ := Session.reads_front (q := 6) reachable_roomSession
    holds_roomSession respectsRun_twoRoomsSteps rfl rfl isRecord_twoRooms handle_twoRoomsSteps
    (by decide) (by decide)
  refine ⟨reachable_roomSession, holds_roomSession, respectsRun_twoRoomsSteps, rfl,
    isRecord_twoRooms, handle_twoRoomsSteps, hread.trans ?_⟩
  rw [hall.2 (.inr (by decide +kernel))]
  rfl

/-- As the clock stands where it stood when two rooms were added, a select over everything gives
only one. -/
theorem execute_misses_secondRoom :
    roomSession.Reachable ∧ roomSession.Holds roomType.handle.name ⟨roomType.schema, []⟩ ∧
      roomSession.RespectsRun roomType.handle.declaration twoRoomsSteps ∧
      (∀ row ∈ twoRooms, roomType.handle.declaration.IsRecord row) ∧
      (roomSession.run twoRoomsSteps).handles.get? "rooms" = some (0, roomType.handle) ∧
      ((roomSession.run twoRoomsSteps).perform 5
        (.handle "rooms" (.execute roomType.handle.declaration.select))).1 =
          .ok (.records (twoRooms.take 1)) ∧ twoRooms.take 1 ≠ twoRooms := by
  refine ⟨reachable_roomSession, holds_roomSession, respectsRun_twoRoomsSteps, isRecord_twoRooms,
    handle_twoRoomsSteps, ?_, by decide +kernel⟩
  rw [Session.execute_select reachable_roomSession holds_roomSession respectsRun_twoRoomsSteps
    handle_twoRoomsSteps]
  exact congrArg (fun rows => Except.ok (Answer.records rows)) (by decide +kernel)

end TypedSeries
