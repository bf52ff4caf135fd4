import Mathlib.Data.List.Induction
import TypedSeries.Csv.ResultTable
import TypedSeries.Proofs.StoredRow

/-!
# Rows of a result table

What an answer's table says, and what is made of it.

1. A record with a cell for each column has one cell under each name (`Record.userCells_eq`), and
   putting it into a row sets its own columns and its field and leaves the rest
   (`Record.get?_addTo`).
2. Records of one key say the same of all columns but their field (`Record.frame_congr`), so the row
   they are gathered into shows each of them, and under a field the value of the last one
   (`get?_gather_of_ne`, `get?_gather_of_field`).
3. The rows of an answer are gathered key by key (`foldl_add`).
4. Cells in quotes read back whatever they hold (`records_tableText`), so every table is the table
   of some answer.

**Main.** `decode_table`: a table none of whose data rows has the words of a header is decoded, and
every data row is shown in a row of the answer. A data row that has them is lost
(`decode_of_hasHeaderWords`).
-/

namespace TypedSeries.Csv

/-! ## Tables -/

/-- The columns of a result table: the store's own and distinct columns of the user. -/
structure IsHeading (columns : List String) : Prop where
  store : ∀ name ∈ ["result", "table", timeColumn, valueColumn, fieldColumn, measurementColumn],
    name ∈ columns
  distinct : (columns.filter isUserColumn).Nodup
  noError : "error" ∉ columns
  noRemark : isAnnotation columns = false

/-- The cell under a column, empty if there is none. -/
def Record.cell (r : Record) (name : String) : String := (r.cell? name).getD ""

/-- A data row of a result table: a cell for each column, the first one empty and the one under
`result` not, and a field that is no column. -/
structure Record.IsData (r : Record) : Prop where
  length : r.cells.length = r.columns.length
  first : r.cells.head? = some ""
  result : r.cell "result" ≠ ""
  field : r.cell fieldColumn ∉ r.columns

/-- Cells among which are the words that tell the columns of a table, or those of an error. -/
def HasHeaderWords (cells : List String) : Prop :=
  ("result" ∈ cells ∧ "table" ∈ cells) ∨ ("error" ∈ cells ∧ "reference" ∈ cells)

instance (cells : List String) : Decidable (HasHeaderWords cells) :=
  inferInstanceAs (Decidable (_ ∨ _))

/-- A record with a cell for each column and a field that is no column. -/
structure Record.Filled (r : Record) : Prop where
  length : r.cells.length = r.columns.length
  field : r.cell fieldColumn ∉ r.columns

/-- A record that can only be data: it is not blank, is no remark and has no words of a header. -/
structure Record.Plain (r : Record) : Prop extends Record.Filled r where
  noBlank : isBlankRecord r.cells = false
  noRemark : isAnnotation r.cells = false
  noWords : ¬ HasHeaderWords r.cells

/-- Whether cells are passed over: they are blank or a remark. -/
def isSkipped (cells : List String) : Bool := isBlankRecord cells || isAnnotation cells

/-- The data rows among the records that follow the columns of a table: those that are not passed
over and are not the columns said again. -/
def dataRows (columns : List String) (rs : List (List String)) : List (List String) :=
  rs.filter fun cells => !(isSkipped cells || cells = columns)

theorem isHeader_iff {cells : List String} : isHeader cells = true ↔ HasHeaderWords cells := by
  simp [isHeader, HasHeaderWords]

/-- A row with the time, the measurement and the tags of a record; empty tags are left out. -/
structure Record.ShownIn (r : Record) (row : Row) : Prop where
  time : row.get? timeColumn = some (timeValue (r.cell timeColumn))
  measurement : row.get? measurementColumn = some (.text (r.cell measurementColumn))
  tags : ∀ tag ∈ r.columns, isUserColumn tag = true →
    row.get? tag = if r.cell tag = "" then none else some (.text (r.cell tag))

/-- Whether two records agree on time, measurement, tags and field. -/
def Record.sameSeries (r s : Record) : Bool :=
  r.columns.all fun name =>
    !(isUserColumn name || name = timeColumn || name = measurementColumn || name = fieldColumn) ||
      r.cell name = s.cell name

namespace Record

/-! ## Cells and columns -/

theorem cell?_cons (c x : String) (columns cells : List String) (name : String) :
    cell? ⟨c :: columns, x :: cells⟩ name =
      if c = name then some x else cell? ⟨columns, cells⟩ name := by
  unfold cell?
  rw [List.findIdx?_cons]
  by_cases h : c = name
  · simp [h]
  · simp only [h, decide_false, if_false, Bool.false_eq_true]
    cases List.findIdx? (fun x => decide (x = name)) columns <;> rfl

theorem cell_cons (c x : String) (columns cells : List String) (name : String) :
    cell ⟨c :: columns, x :: cells⟩ name = if c = name then x else cell ⟨columns, cells⟩ name := by
  unfold cell
  rw [cell?_cons]
  split <;> rfl

theorem userCells_cons (c x : String) (columns cells : List String) :
    userCells ⟨c :: columns, x :: cells⟩ =
      (if isUserColumn c then [(c, x)] else []) ++ userCells ⟨columns, cells⟩ := by
  unfold userCells
  rw [List.mapIdx_cons, List.filter_cons]
  by_cases h : isUserColumn c = true <;> simp [h]

theorem cell_mem {r : Record} {name : String} (h : r.cell name ≠ "") : r.cell name ∈ r.cells := by
  unfold cell at h ⊢
  cases hc : r.cell? name with
  | none => exact absurd (by rw [hc]; rfl) h
  | some x =>
    obtain ⟨i, -, hi⟩ := Option.bind_eq_some_iff.1 hc
    exact List.mem_of_getElem? hi

/-- Where each column has its cell, there is a cell under each column. -/
theorem cell?_eq_some {r : Record} (h : r.cells.length = r.columns.length) {name : String}
    (hname : name ∈ r.columns) : r.cell? name = some (r.cell name) := by
  obtain ⟨columns, cells⟩ := r
  induction columns generalizing cells with
  | nil => cases hname
  | cons c columns ih =>
    cases cells with
    | nil => cases h
    | cons x cells =>
      rw [cell?_cons, cell_cons]
      split
      next => rfl
      next hne =>
        exact ih cells (Nat.succ.inj h) (List.mem_of_ne_of_mem (Ne.symm hne) hname)

theorem userCells_eq {r : Record} (h : r.cells.length = r.columns.length)
    (hd : (r.columns.filter isUserColumn).Nodup) :
    r.userCells = (r.columns.filter isUserColumn).map fun name => (name, r.cell name) := by
  obtain ⟨columns, cells⟩ := r
  induction columns generalizing cells with
  | nil => rfl
  | cons c columns ih =>
    cases cells with
    | nil => cases h
    | cons x cells =>
      have hlen : cells.length = columns.length := Nat.succ.inj h
      have hcell : ∀ name ∈ columns.filter isUserColumn, c ≠ name →
          (name, cell ⟨columns, cells⟩ name) = (name, cell ⟨c :: columns, x :: cells⟩ name) := by
        intro name _ hne
        rw [cell_cons, if_neg hne]
      rw [userCells_cons]
      by_cases hc : isUserColumn c = true
      · simp only [List.filter_cons, hc, if_true] at hd ⊢
        obtain ⟨hnot, hd⟩ := List.nodup_cons.1 hd
        rw [List.map_cons, cell_cons, if_pos rfl, ih cells hlen hd, List.singleton_append]
        congr 1
        exact List.map_congr_left fun name hn => hcell name hn fun he => hnot (he ▸ hn)
      · simp only [List.filter_cons, hc] at hd ⊢
        rw [ih cells hlen hd]
        refine List.map_congr_left fun name hn => hcell name hn ?_
        rintro rfl
        exact hc (List.mem_filter.1 hn).2

/-! ## One record in a row -/

/-- What a record says of a column of the user. -/
def tag? (r : Record) (name : String) : Option Value :=
  if isUserColumn name ∧ name ∈ r.columns ∧ r.cell name ≠ "" then some (.text (r.cell name))
  else none

/-- What a record says of a column, its field apart. -/
def frame (r : Record) (name : String) : Option Value :=
  (r.tag? name).or
    (if measurementColumn = name then some (.text (r.cell measurementColumn))
    else if timeColumn = name then some (timeValue (r.cell timeColumn))
    else none)

/-- A record of a table: its columns are a heading, and each has a cell. -/
structure Full (r : Record) : Prop where
  heading : IsHeading r.columns
  length : r.cells.length = r.columns.length

variable {r s : Record} {name : String} {row : Row}

theorem Full.cell?_store (h : r.Full)
    (hn : name ∈ ["result", "table", timeColumn, valueColumn, fieldColumn, measurementColumn]) :
    r.cell? name = some (r.cell name) := cell?_eq_some h.length (h.heading.store name hn)

theorem userCells_filter (h : r.Full) :
    ((r.userCells.filter fun c => c.2 ≠ "").map fun c => (c.1, Value.text c.2)) =
      ((r.columns.filter isUserColumn).filter fun name => r.cell name ≠ "").map
        fun name => (name, .text (r.cell name)) := by
  rw [userCells_eq h.length h.heading.distinct, List.filter_map, List.map_map]
  rfl

theorem nodup_userCells (h : r.Full) :
    (((r.userCells.filter fun c => c.2 ≠ "").map fun c => (c.1, Value.text c.2)).map
      Prod.fst).Nodup := by
  rw [userCells_filter h, List.map_map]
  refine (h.heading.distinct.filter _).map fun a b hab => hab

theorem find?_userCells (h : r.Full) : NameMap.find? name
    ((r.userCells.filter fun c => c.2 ≠ "").map fun c => (c.1, Value.text c.2)) = r.tag? name := by
  have hmem : name ∈ (r.columns.filter isUserColumn).filter (fun name => r.cell name ≠ "") ↔
      isUserColumn name ∧ name ∈ r.columns ∧ r.cell name ≠ "" := by
    rw [List.mem_filter, List.mem_filter, and_comm (a := name ∈ r.columns), and_assoc]
    simp
  unfold tag?
  split
  next hn =>
    refine NameMap.find?_of_mem_of_nodup (nodup_userCells h) ?_
    rw [userCells_filter h]
    exact List.mem_map.2 ⟨name, hmem.2 hn, rfl⟩
  next hn =>
    refine NameMap.find?_eq_none fun hmap => hn (hmem.1 ?_)
    rw [userCells_filter h, List.map_map] at hmap
    obtain ⟨_, hm, rfl⟩ := List.mem_map.1 hmap
    exact hm

/-- A record sets its own columns and its field in a row, and nothing else. -/
theorem get?_addTo (h : r.Full) : (r.addTo row).get? name =
    if r.cell fieldColumn = name then some (.text (r.cell valueColumn))
    else (r.frame name).or (row.get? name) := by
  have htime := h.cell?_store (show timeColumn ∈ _ by simp)
  have hmeasurement := h.cell?_store (show measurementColumn ∈ _ by simp)
  have hfield := h.cell?_store (show fieldColumn ∈ _ by simp)
  have hvalue := h.cell?_store (show valueColumn ∈ _ by simp)
  unfold addTo
  simp only [htime, hmeasurement, hfield, hvalue, NameMap.get?_insert,
    NameMap.get?_insertAll (nodup_userCells h), find?_userCells h]
  by_cases hf : r.cell fieldColumn = name
  · rw [if_pos hf, if_pos hf]
  · rw [if_neg hf, if_neg hf, frame, Option.or_assoc]
    congr 1
    split
    · rfl
    · split <;> rfl

/-! ## Records of one key -/

theorem key_eq (h : r.Full) : r.key = r.cell timeColumn :: r.cell measurementColumn ::
    (r.columns.filter isUserColumn).map fun name => name ++ "=" ++ r.cell name := by
  unfold key
  rw [userCells_eq h.length h.heading.distinct, List.map_map]
  rfl

/-- Records of the same columns and the same key agree on time, measurement and tags. -/
theorem key_eq_iff (hr : r.Full) (hs : s.Full) (hc : r.columns = s.columns) :
    r.key = s.key ↔ r.cell timeColumn = s.cell timeColumn ∧
      r.cell measurementColumn = s.cell measurementColumn ∧
      ∀ name ∈ r.columns, isUserColumn name = true → r.cell name = s.cell name := by
  rw [key_eq hr, key_eq hs, ← hc, List.cons.injEq, List.cons.injEq, List.map_inj_left]
  simp only [List.mem_filter, and_imp]
  refine and_congr_right fun _ => and_congr_right fun _ => ?_
  refine forall_congr' fun name => imp_congr_right fun _ => imp_congr_right fun _ => ?_
  exact String.append_right_inj _

theorem frame_congr (hr : r.Full) (hs : s.Full) (hc : r.columns = s.columns)
    (hk : r.key = s.key) : r.frame = s.frame := by
  obtain ⟨ht, hm, htags⟩ := (key_eq_iff hr hs hc).1 hk
  funext name
  unfold frame
  rw [ht, hm]
  congr 1
  unfold tag?
  by_cases hu : isUserColumn name = true ∧ name ∈ r.columns
  · rw [htags name hu.2 hu.1, hc]
  · rw [if_neg fun h => hu ⟨h.1, h.2.1⟩, if_neg fun h => hu ⟨h.1, hc ▸ h.2.1⟩]

theorem sameSeries_iff (hr : r.Full) (hs : s.Full) (hc : r.columns = s.columns) :
    r.sameSeries s = true ↔ r.key = s.key ∧ r.cell fieldColumn = s.cell fieldColumn := by
  have hstore := hr.heading.store
  have hmem : r.sameSeries s = true ↔ ∀ name ∈ r.columns,
      isUserColumn name = true ∨ name = timeColumn ∨ name = measurementColumn ∨
        name = fieldColumn → r.cell name = s.cell name := by
    simp only [sameSeries, List.all_eq_true, Bool.or_eq_true, Bool.not_eq_true',
      decide_eq_true_eq, Bool.or_eq_false_iff, decide_eq_false_iff_not]
    refine forall_congr' fun name => imp_congr_right fun _ => ?_
    rw [← Bool.not_eq_true, or_iff_not_imp_left]
    tauto
  rw [hmem, key_eq_iff hr hs hc]
  constructor
  · intro h
    exact ⟨⟨h _ (hstore timeColumn (by simp)) (by simp),
      h _ (hstore measurementColumn (by simp)) (by simp),
      fun name hn hu => h name hn (.inl hu)⟩, h _ (hstore fieldColumn (by simp)) (by simp)⟩
  · rintro ⟨⟨ht, hm, hu⟩, hf⟩ name hn (h | rfl | rfl | rfl)
    · exact hu name hn h
    · exact ht
    · exact hm
    · exact hf

theorem tag?_of_store (h : isUserColumn name = false) : r.tag? name = none := by
  simp [tag?, h]

theorem frame_time : r.frame timeColumn = some (timeValue (r.cell timeColumn)) := by
  rw [frame, tag?_of_store (by decide +kernel), if_neg (by decide +kernel), if_pos rfl]
  rfl

theorem frame_measurement :
    r.frame measurementColumn = some (.text (r.cell measurementColumn)) := by
  rw [frame, tag?_of_store (by decide +kernel), if_pos rfl]
  rfl

theorem frame_of_user (hn : name ∈ r.columns) (hu : isUserColumn name = true) :
    r.frame name = if r.cell name = "" then none else some (.text (r.cell name)) := by
  have hm : measurementColumn ≠ name := by
    rintro rfl
    exact absurd hu (by decide +kernel)
  have ht : timeColumn ≠ name := by
    rintro rfl
    exact absurd hu (by decide +kernel)
  rw [frame, if_neg hm, if_neg ht, Option.or_none, tag?]
  by_cases he : r.cell name = ""
  · simp [he]
  · simp [he, hn, hu]

theorem frame_of_not_mem (h : IsHeading r.columns) (hn : name ∉ r.columns) :
    r.frame name = none := by
  have hm : measurementColumn ≠ name := by
    rintro rfl
    exact hn (h.store _ (by simp))
  have ht : timeColumn ≠ name := by
    rintro rfl
    exact hn (h.store _ (by simp))
  rw [frame, if_neg hm, if_neg ht, Option.or_none, tag?, if_neg fun h => hn h.2.1]

end Record

/-! ## Gathering records -/

/-- The row records are put into, one after the other. -/
def gather (rs : List Record) : Row := rs.foldl (fun row r => r.addTo row) .empty

theorem gather_concat (rs : List Record) (r : Record) :
    gather (rs ++ [r]) = r.addTo (gather rs) := by
  rw [gather, List.foldl_append]
  rfl

section Gather

variable {rs : List Record} {frame : String → Option Value} {name : String}

/-- A column that no record has for its field holds what the records say of it. -/
theorem get?_gather_of_ne (hrs : ∀ r ∈ rs, r.Full ∧ r.frame = frame) (hne : rs ≠ [])
    (hname : ∀ r ∈ rs, r.cell fieldColumn ≠ name) : (gather rs).get? name = frame name := by
  induction rs using List.reverseRecOn with
  | nil => exact absurd rfl hne
  | append_singleton rs r ih =>
    obtain ⟨hfull, hframe⟩ := hrs r (by simp)
    rw [gather_concat, Record.get?_addTo hfull, if_neg (hname r (by simp)), hframe]
    by_cases hnil : rs = []
    · subst hnil
      exact Option.or_none
    · rw [ih (fun s hs => hrs s (List.mem_append_left _ hs)) hnil
        fun s hs => hname s (List.mem_append_left _ hs), Option.or_self]

/-- A field holds the value of the last record of the field. -/
theorem get?_gather_of_field (hrs : ∀ r ∈ rs, r.Full ∧ r.frame name = none) :
    (gather rs).get? name = (rs.filter (·.cell fieldColumn = name)).getLast?.map
      fun r => .text (r.cell valueColumn) := by
  induction rs using List.reverseRecOn with
  | nil => rfl
  | append_singleton rs r ih =>
    obtain ⟨hfull, hframe⟩ := hrs r (by simp)
    rw [gather_concat, Record.get?_addTo hfull, List.filter_append]
    by_cases hf : r.cell fieldColumn = name
    · simp [hf]
    · rw [if_neg hf, hframe, Option.none_or, ih fun s hs => hrs s (List.mem_append_left _ hs)]
      simp [hf]

end Gather

theorem nodup_eraseDups {α : Type} [BEq α] [LawfulBEq α] (l : List α) : l.eraseDups.Nodup := by
  induction h : l.length using Nat.strong_induction_on generalizing l with
  | _ n ih =>
    cases l with
    | nil => exact List.nodup_nil
    | cons a l =>
      rw [List.eraseDups_cons, List.nodup_cons]
      refine ⟨by simp [List.mem_eraseDups], ih _ ?_ _ rfl⟩
      subst h
      exact Nat.lt_succ_of_le (List.length_filter_le _ _)

theorem eraseDups_concat {α : Type} [BEq α] [LawfulBEq α] (l : List α) (a : α) :
    (l ++ [a]).eraseDups = l.eraseDups ++ if a ∈ l then [] else [a] := by
  rw [List.eraseDups_append, List.removeAll]
  split
  next h => rw [List.filter_cons_of_neg (by simpa using h)]; rfl
  next h => rw [List.filter_cons_of_pos (by simpa using h), List.filter_nil]; rfl

/-- A record goes into the row of its key, or into a new row after the others. -/
theorem add_map (r : Record) {keys : List (List String)} (hn : keys.Nodup)
    (row : List String → Row) : Rows.add r (keys.map fun k => (k, row k)) =
      (keys.map fun k => (k, if k = r.key then r.addTo (row k) else row k)) ++
        if r.key ∈ keys then [] else [(r.key, r.addTo .empty)] := by
  induction keys with
  | nil => rfl
  | cons k keys ih =>
    obtain ⟨hk, hn⟩ := List.nodup_cons.1 hn
    rw [List.map_cons, Rows.add]
    by_cases he : k = r.key
    · have hrest : (keys.map fun k => (k, if k = r.key then r.addTo (row k) else row k)) =
          keys.map fun k => (k, row k) :=
        List.map_congr_left fun j hj => by rw [if_neg (by rintro rfl; exact hk (he ▸ hj))]
      rw [if_pos he, List.map_cons, if_pos he, hrest, if_pos (he ▸ List.mem_cons_self),
        List.append_nil]
    · rw [if_neg he, ih hn, List.map_cons, if_neg he, List.cons_append]
      simp [Ne.symm he]

/-- The table gathers the records key by key, in the order in which keys appear. -/
theorem foldl_add (rs : List Record) : rs.foldl (fun t r => Rows.add r t) [] =
    (rs.map (·.key)).eraseDups.map fun k => (k, gather (rs.filter (·.key = k))) := by
  induction rs using List.reverseRecOn with
  | nil => rfl
  | append_singleton rs r ih =>
    have hgather : ∀ k, gather ((rs ++ [r]).filter (·.key = k)) =
        if k = r.key then r.addTo (gather (rs.filter (·.key = k)))
        else gather (rs.filter (·.key = k)) := by
      intro k
      rw [List.filter_append]
      by_cases hk : k = r.key
      · subst hk
        simp [gather_concat]
      · simp [hk, Ne.symm hk]
    rw [List.foldl_append, ih, List.foldl_cons, List.foldl_nil, add_map r (nodup_eraseDups _),
      List.map_append, List.map_singleton, eraseDups_concat, List.map_append]
    simp only [hgather, List.mem_eraseDups]
    congr 1
    split
    next => rfl
    next hr =>
      have hnone : rs.filter (·.key = r.key) = [] := by
        rw [List.filter_eq_nil_iff]
        intro s hs he
        exact hr (List.mem_map.2 ⟨s, hs, by simpa using he⟩)
      simp [hnone, gather]

/-! ## Reading a table -/

theorem not_isBlankRecord {cells : List String} {s : String} (hs : s ∈ cells) (hne : s ≠ "") :
    isBlankRecord cells = false := by
  by_contra hb
  have hb : isBlankRecord cells = true := by simpa using hb
  exact hne (by simpa using List.all_eq_true.1 hb s hs)

/-- Whatever has the words of a header is taken for one. -/
theorem read_of_hasHeaderWords {cells : List String} (hremark : isAnnotation cells = false)
    (hwords : HasHeaderWords cells) (t : Table) :
    t.read cells = .ok { t with columns := some cells } := by
  have hblank : isBlankRecord cells = false := by
    rcases hwords with ⟨hr, -⟩ | ⟨he, -⟩
    · exact not_isBlankRecord hr (by decide)
    · exact not_isBlankRecord he (by decide)
  unfold Table.read
  rw [if_neg (by simp [hblank, hremark]), if_pos (isHeader_iff.2 hwords)]

theorem read_heading {columns : List String} (h : IsHeading columns) (t : Table) :
    t.read columns = .ok { t with columns := some columns } :=
  read_of_hasHeaderWords h.noRemark
    (.inl ⟨h.store "result" (by simp), h.store "table" (by simp)⟩) t

theorem Record.IsData.noRemark {r : Record} (h : r.IsData) : isAnnotation r.cells = false := by
  have hfirst := h.first
  unfold isAnnotation
  cases hcells : r.cells with
  | nil => rfl
  | cons c cells =>
    rw [hcells] at hfirst
    cases hfirst
    rfl

theorem Record.IsData.filled {r : Record} (h : r.IsData) : r.Filled := ⟨h.length, h.field⟩

theorem Record.IsData.plain {r : Record} (h : r.IsData) (hwords : ¬ HasHeaderWords r.cells) :
    r.Plain where
  toFilled := h.filled
  noBlank := not_isBlankRecord (cell_mem h.result) h.result
  noRemark := h.noRemark
  noWords := hwords

/-- What is neither passed over nor a header is put into its row, unless the table tells of an
error. -/
theorem read_data {columns cells : List String} {rows : Rows} (hkept : isSkipped cells = false)
    (hwords : ¬ HasHeaderWords cells) : Table.read ⟨some columns, rows⟩ cells =
      if "error" ∈ columns then .error (.api 400 ((Record.mk columns cells).cell "error"))
      else .ok ⟨some columns, rows.add ⟨columns, cells⟩⟩ := by
  unfold Table.read
  rw [if_neg (by simpa [isSkipped] using hkept), if_neg (mt isHeader_iff.1 hwords)]
  simp only [List.contains_iff_mem]
  rfl

theorem Record.Plain.kept {r : Record} (h : r.Plain) : isSkipped r.cells = false := by
  rw [isSkipped, h.noBlank, h.noRemark]
  rfl

theorem read_plain {columns cells : List String} {rows : Rows}
    (h : (Record.mk columns cells).Plain) : Table.read ⟨some columns, rows⟩ cells =
      if "error" ∈ columns then .error (.api 400 ((Record.mk columns cells).cell "error"))
      else .ok ⟨some columns, rows.add ⟨columns, cells⟩⟩ := read_data h.kept h.noWords

theorem read_skipped {cells : List String} (h : isSkipped cells = true) (t : Table) :
    t.read cells = .ok t := by
  unfold Table.read
  rw [if_pos (by simpa [isSkipped] using h)]

/-- What is passed over changes nothing. -/
theorem foldlM_kept (rs : List (List String)) (t : Table) : rs.foldlM Table.read t =
    (rs.filter fun cells => !isSkipped cells).foldlM Table.read t := by
  induction rs generalizing t with
  | nil => rfl
  | cons cells rs ih =>
    rw [List.foldlM_cons]
    cases hskip : isSkipped cells with
    | true =>
      rw [List.filter_cons_of_neg (by simp [hskip]), read_skipped hskip]
      exact ih t
    | false =>
      rw [List.filter_cons_of_pos (by simp [hskip]), List.foldlM_cons]
      exact bind_congr ih

theorem foldlM_skipped {rs : List (List String)} (h : ∀ cells ∈ rs, isSkipped cells = true)
    (t : Table) : rs.foldlM Table.read t = .ok t := by
  rw [foldlM_kept, List.filter_eq_nil_iff.2 fun cells hc => by simp [h cells hc]]
  rfl

/-- What is passed over and the columns said again change nothing. -/
theorem foldlM_dataRows {columns : List String} {rs : List (List String)}
    (hremark : isAnnotation columns = false) (hwords : HasHeaderWords columns)
    (hrows : ∀ cells ∈ dataRows columns rs, (Record.mk columns cells).Plain) (t : Rows) :
    rs.foldlM Table.read ⟨some columns, t⟩ =
      (dataRows columns rs).foldlM Table.read ⟨some columns, t⟩ := by
  induction rs generalizing t with
  | nil => rfl
  | cons cells rs ih =>
    unfold dataRows at hrows ⊢
    rw [List.filter_cons] at hrows ⊢
    rw [List.foldlM_cons]
    split at hrows
    next hdata =>
      have ih := ih fun c hc => hrows c (List.mem_cons_of_mem _ hc)
      rw [if_pos hdata, List.foldlM_cons, read_plain (hrows cells List.mem_cons_self)]
      split
      · rfl
      · exact ih _
    next hskip =>
      have hread : Table.read ⟨some columns, t⟩ cells = .ok ⟨some columns, t⟩ := by
        by_cases hc : cells = columns
        · rw [hc, read_of_hasHeaderWords hremark hwords]
        · exact read_skipped (by simpa [hc] using hskip) _
      rw [if_neg hskip, hread]
      exact ih hrows t

/-- An answer with one table says what its columns and its data rows say. -/
theorem rowsOf_answer {columns : List String} {before after : List (List String)}
    (hremark : isAnnotation columns = false) (hwords : HasHeaderWords columns)
    (hbefore : ∀ cells ∈ before, isSkipped cells = true)
    (hrows : ∀ cells ∈ dataRows columns after, (Record.mk columns cells).Plain) :
    rowsOf (before ++ columns :: after) = rowsOf (columns :: dataRows columns after) := by
  unfold rowsOf
  rw [List.foldlM_append, foldlM_skipped hbefore]
  show (List.foldlM Table.read ⟨none, []⟩ (columns :: after)).map _ = _
  rw [List.foldlM_cons, List.foldlM_cons, read_of_hasHeaderWords hremark hwords]
  exact congrArg (Except.map _) (foldlM_dataRows hremark hwords hrows [])

theorem foldlM_data {columns : List String} {rows : List (List String)} (h : IsHeading columns)
    (hrows : ∀ cells ∈ rows, isSkipped cells = false ∧ ¬ HasHeaderWords cells) (t : Rows) :
    rows.foldlM Table.read ⟨some columns, t⟩ =
      .ok ⟨some columns, (rows.map (Record.mk columns)).foldl (fun t r => Rows.add r t) t⟩ := by
  induction rows generalizing t with
  | nil => rfl
  | cons cells rows ih =>
    obtain ⟨hkept, hwords⟩ := hrows cells List.mem_cons_self
    rw [List.foldlM_cons, read_data hkept hwords, if_neg h.noError]
    exact ih (fun c hc => hrows c (List.mem_cons_of_mem _ hc)) _

/-- The rows of a table, one for each key. -/
theorem rowsOf_data {columns : List String} {rows : List (List String)} (h : IsHeading columns)
    (hrows : ∀ cells ∈ rows, isSkipped cells = false ∧ ¬ HasHeaderWords cells) :
    rowsOf (columns :: rows) = .ok (((rows.map (Record.mk columns)).map (·.key)).eraseDups.map
      fun k => gather ((rows.map (Record.mk columns)).filter (·.key = k))) := by
  rw [rowsOf, List.foldlM_cons, read_heading h]
  show (rows.foldlM Table.read ⟨some columns, []⟩).map _ = _
  rw [foldlM_data h hrows, foldl_add]
  simp [Except.map]

theorem rowsOf_plain {columns : List String} {rows : List (List String)} (h : IsHeading columns)
    (hrows : ∀ cells ∈ rows, (Record.mk columns cells).Plain) :
    rowsOf (columns :: rows) = .ok (((rows.map (Record.mk columns)).map (·.key)).eraseDups.map
      fun k => gather ((rows.map (Record.mk columns)).filter (·.key = k))) :=
  rowsOf_data h fun cells hc => ⟨(hrows cells hc).kept, (hrows cells hc).noWords⟩

theorem rowsOf_table {columns : List String} {rows : List (List String)} (h : IsHeading columns)
    (hrows : ∀ cells ∈ rows, (Record.mk columns cells).IsData ∧ ¬ HasHeaderWords cells) :
    rowsOf (columns :: rows) = .ok (((rows.map (Record.mk columns)).map (·.key)).eraseDups.map
      fun k => gather ((rows.map (Record.mk columns)).filter (·.key = k))) :=
  rowsOf_plain h fun cells hc => (hrows cells hc).1.plain (hrows cells hc).2

section Series

variable {columns : List String} {rs : List Record} {r : Record}

theorem full_of_filled (h : IsHeading columns) (hrs : ∀ r ∈ rs, r.columns = columns ∧ r.Filled) :
    ∀ s ∈ rs, s.Full := by
  intro s hs
  obtain ⟨rfl, hd⟩ := hrs s hs
  exact ⟨h, hd.length⟩

/-- Records of one key say the same, their fields apart. -/
theorem frame_of_key (h : IsHeading columns) (hrs : ∀ r ∈ rs, r.columns = columns ∧ r.Filled)
    (hr : r ∈ rs) : ∀ s ∈ rs.filter (·.key = r.key), s.Full ∧ s.frame = r.frame := by
  intro s hs
  obtain ⟨hs, hk⟩ := List.mem_filter.1 hs
  have hfull := full_of_filled h hrs
  have hcolumns : s.columns = r.columns := by rw [(hrs s hs).1, (hrs r hr).1]
  exact ⟨hfull s hs, Record.frame_congr (hfull s hs) (hfull r hr) hcolumns (by simpa using hk)⟩

/-- The row of a data row's key holds under each column what the data row says of it. -/
theorem get?_gather_column (h : IsHeading columns)
    (hrs : ∀ r ∈ rs, r.columns = columns ∧ r.Filled) (hr : r ∈ rs) {name : String}
    (hn : name ∈ columns) : (gather (rs.filter (·.key = r.key))).get? name = r.frame name := by
  have hne : rs.filter (·.key = r.key) ≠ [] :=
    List.ne_nil_of_mem (List.mem_filter.2 ⟨hr, by simp⟩)
  -- the columns of the table are no fields, so no value is put over them
  refine get?_gather_of_ne (frame_of_key h hrs hr) hne ?_
  rintro s hs rfl
  obtain ⟨hc, hs⟩ := hrs s (List.mem_filter.1 hs).1
  exact hs.field (hc ▸ hn)

/-- The row of a data row's key shows it. -/
theorem gather_shownIn (h : IsHeading columns) (hrs : ∀ r ∈ rs, r.columns = columns ∧ r.Filled)
    (hr : r ∈ rs) : r.ShownIn (gather (rs.filter (·.key = r.key))) := by
  have hcolumns : r.columns = columns := (hrs r hr).1
  refine ⟨?_, ?_, ?_⟩
  · rw [get?_gather_column h hrs hr (h.store _ (by simp)), Record.frame_time]
  · rw [get?_gather_column h hrs hr (h.store _ (by simp)), Record.frame_measurement]
  · intro tag ht hu
    rw [get?_gather_column h hrs hr (hcolumns ▸ ht), Record.frame_of_user ht hu]

end Series

/-- The row of a data row's key shows it, and under its field holds the value of the last data
row of its series. -/
theorem gather_shows {columns : List String} {rs : List Record} (h : IsHeading columns)
    (hrs : ∀ r ∈ rs, r.columns = columns ∧ r.IsData) {r : Record} (hr : r ∈ rs) :
    r.ShownIn (gather (rs.filter (·.key = r.key))) ∧
      ∃ last, (rs.filter (r.sameSeries ·)).getLast? = some last ∧
        (gather (rs.filter (·.key = r.key))).get? (r.cell fieldColumn) =
          some (.text (last.cell valueColumn)) := by
  have hfilled : ∀ r ∈ rs, r.columns = columns ∧ r.Filled :=
    fun r hr => ⟨(hrs r hr).1, (hrs r hr).2.filled⟩
  have hfull := full_of_filled h hfilled
  have hclass := frame_of_key h hfilled hr
  obtain ⟨rfl, hdata⟩ := hrs r hr
  refine ⟨gather_shownIn h hfilled hr, ?_⟩
  have hseries : (rs.filter (·.key = r.key)).filter (·.cell fieldColumn = r.cell fieldColumn) =
      rs.filter (r.sameSeries ·) := by
    rw [List.filter_filter]
    refine List.filter_congr fun s hs => ?_
    rw [Bool.eq_iff_iff, Record.sameSeries_iff (hfull r hr) (hfull s hs) (hrs s hs).1.symm]
    simp only [Bool.and_eq_true, decide_eq_true_eq]
    exact ⟨fun ⟨hf, hk⟩ => ⟨hk.symm, hf.symm⟩, fun ⟨hk, hf⟩ => ⟨hf.symm, hk.symm⟩⟩
  have hmem : r ∈ rs.filter (r.sameSeries ·) :=
    List.mem_filter.2 ⟨hr, (Record.sameSeries_iff (hfull r hr) (hfull r hr) rfl).2 ⟨rfl, rfl⟩⟩
  have hlast := List.getLast?_eq_some_getLast (List.ne_nil_of_mem hmem)
  refine ⟨_, hlast, ?_⟩
  rw [get?_gather_of_field fun s hs => ⟨(hclass s hs).1, ?_⟩, hseries, hlast]
  · rfl
  · rw [(hclass s hs).2, Record.frame_of_not_mem h hdata.field]

/-! ## Writing a table -/

/-- A cell in quotes, the quotes in it doubled. -/
def quoteCell (s : String) : List Char :=
  '"' :: (s.toList.flatMap (fun c => if c = '"' then ['"', '"'] else [c]) ++ ['"'])

/-- A record on a line. -/
def recordText : List String → List Char
  | [] => ['\n']
  | [s] => quoteCell s ++ ['\n']
  | s :: t :: cells => quoteCell s ++ ',' :: recordText (t :: cells)

/-- Records, one after the other. -/
def tableText (rs : List (List String)) : String := String.ofList (rs.flatMap recordText)

theorem scan_quoted (cells : List String) (text cs rest : List Char) :
    scan .quoted cells text
      (cs.flatMap (fun c => if c = '"' then ['"', '"'] else [c]) ++ '"' :: rest) =
        scan .afterQuote cells (cs.reverse ++ text) rest := by
  induction cs generalizing text with
  | nil => simp [scan]
  | cons c cs ih =>
    by_cases hc : c = '"'
    · subst hc
      simp [scan, ih]
    · simp [scan, hc, ih]

theorem scan_quoteCell {place : Place} (h : place = .record ∨ place = .cell) (cells : List String)
    (s : String) (rest : List Char) :
    scan place cells [] (quoteCell s ++ rest) = scan .afterQuote cells s.toList.reverse rest := by
  rw [quoteCell, List.cons_append, List.append_assoc, List.singleton_append]
  rcases h with rfl | rfl <;> simp [scan, scan_quoted]

theorem scan_recordText {place : Place} (h : place = .record ∨ place = .cell) {cells : List String}
    (hne : cells ≠ []) (done : List String) (rest : List Char) :
    scan place done [] (recordText cells ++ rest) =
      (done ++ cells) :: scan .record [] [] rest := by
  induction cells generalizing place done with
  | nil => exact absurd rfl hne
  | cons s cells ih =>
    cases cells with
    | nil =>
      rw [recordText, List.append_assoc, scan_quoteCell h]
      simp [scan, isLineEnd]
    | cons t cells =>
      rw [recordText, List.append_assoc, scan_quoteCell h, List.cons_append]
      have ih := ih (.inr rfl) (by simp) (done ++ [s])
      simp [scan, ih]

theorem exists_cons_recordText {cells : List String} (h : cells ≠ []) :
    ∃ text, recordText cells = '"' :: text := by
  match cells, h with
  | [s], _ => exact ⟨_, rfl⟩
  | s :: t :: cells, _ => exact ⟨_, rfl⟩

/-- Written records read back, whatever their cells hold. -/
theorem records_tableText {rs : List (List String)} (h : ∀ cells ∈ rs, cells ≠ []) :
    records (tableText rs) = rs := by
  have hscan : scan .record [] [] (rs.flatMap recordText) = rs := by
    induction rs with
    | nil => rfl
    | cons cells rs ih =>
      rw [List.flatMap_cons, scan_recordText (.inl rfl) (h cells List.mem_cons_self),
        List.nil_append, ih fun c hc => h c (List.mem_cons_of_mem _ hc)]
  have hmark : ∀ cs, rs.flatMap recordText ≠ '\ufeff' :: cs := by
    intro cs hcs
    cases rs with
    | nil => cases hcs
    | cons cells rs =>
      obtain ⟨text, htext⟩ := exists_cons_recordText (h cells List.mem_cons_self)
      rw [List.flatMap_cons, htext] at hcs
      exact absurd (List.head_eq_of_cons_eq hcs) (by decide)
  unfold records tableText
  rw [String.toList_ofList]
  split
  next cs hcs => exact absurd hcs (hmark cs)
  next => exact hscan

/-- **Data rows that look like data.** Every table of a heading and data rows is the table of some
answer. If no data row has the words of a header, the answer is decoded, and for every data row it
has a row that shows it and holds, under the field of the data row, the value of the last data row
of its series. -/
theorem decode_table {columns : List String} {rows : List (List String)} (h : IsHeading columns)
    (hrows : ∀ cells ∈ rows, (Record.mk columns cells).IsData) :
    (∃ body, records body = columns :: rows) ∧
      ∀ body, records body = columns :: rows → (∀ cells ∈ rows, ¬ HasHeaderWords cells) →
        ∃ out, decode body = .ok out ∧ ∀ r ∈ rows.map (Record.mk columns), ∃ row ∈ out,
          r.ShownIn row ∧ ∃ last,
            ((rows.map (Record.mk columns)).filter (r.sameSeries ·)).getLast? = some last ∧
              row.get? (r.cell fieldColumn) = some (.text (last.cell valueColumn)) := by
  constructor
  · refine ⟨tableText (columns :: rows), records_tableText ?_⟩
    intro cells hcells
    rcases List.mem_cons.1 hcells with rfl | hcells
    · exact List.ne_nil_of_mem (h.store "result" (by simp))
    · rintro rfl
      exact absurd (hrows [] hcells).first (by simp)
  · intro body hbody hplain
    have hout := rowsOf_table h fun cells hc => ⟨hrows cells hc, hplain cells hc⟩
    refine ⟨_, by rw [decode, hbody, hout], fun r hr => ?_⟩
    have hdata : ∀ s ∈ rows.map (Record.mk columns), s.columns = columns ∧ s.IsData := by
      intro s hs
      obtain ⟨cells, hcells, rfl⟩ := List.mem_map.1 hs
      exact ⟨rfl, hrows cells hcells⟩
    refine ⟨_, List.mem_map.2 ⟨r.key, ?_, rfl⟩, gather_shows h hdata hr⟩
    exact List.mem_eraseDups.2 (List.mem_map_of_mem hr)

/-- Columns of a table with one tag. -/
def wingColumns : List String :=
  ["", "result", "table", "_time", "_value", "_field", "_measurement", "wing"]

/-- A data row with one word of a header, and a later one of its series. -/
def wingRow : List String :=
  ["", "_result", "0", "2024-01-01T00:00:00Z", "7", "v", "m", "result"]

def laterWingRow : List String :=
  ["", "_result", "1", "2024-01-01T00:00:00Z", "a \"table\",\r\n", "v", "m", "result"]

theorem isHeading_wingColumns : IsHeading wingColumns :=
  ⟨by decide +kernel, by decide +kernel, by decide +kernel, by decide +kernel⟩

theorem decode_wingRows : ∃ out,
    decode (tableText [wingColumns, wingRow, laterWingRow]) = .ok out ∧
      ∃ row ∈ out, row.get? "wing" = some (.text "result") ∧
        row.get? "v" = some (.text "a \"table\",\r\n") := by
  have hdata : ∀ cells ∈ [wingRow, laterWingRow], (Record.mk wingColumns cells).IsData := by
    intro cells hcells
    simp only [List.mem_cons, List.not_mem_nil, or_false] at hcells
    rcases hcells with rfl | rfl <;>
      exact ⟨by decide +kernel, by decide +kernel, by decide +kernel, by decide +kernel⟩
  obtain ⟨out, hout, hall⟩ := (decode_table isHeading_wingColumns hdata).2
    _ (records_tableText (by simp [wingColumns, wingRow, laterWingRow])) (by decide +kernel)
  obtain ⟨row, hrow, hshown, last, hlast, hvalue⟩ := hall ⟨wingColumns, wingRow⟩ (by simp)
  have hvalues : (([wingRow, laterWingRow].map (Record.mk wingColumns)).filter
      ((Record.mk wingColumns wingRow).sameSeries ·)).getLast?.map (·.cell valueColumn) =
        some "a \"table\",\r\n" := by decide +kernel
  rw [hlast] at hvalues
  refine ⟨out, hout, row, hrow, hshown.tags "wing" (by decide +kernel) (by decide +kernel), ?_⟩
  rw [← Option.some.inj hvalues]
  exact hvalue

/-! ## Data rows that look like a header -/

/-- A table of one data row with the words of a header is decoded to nothing. -/
theorem decode_of_hasHeaderWords {columns cells : List String} (h : IsHeading columns)
    (hd : (Record.mk columns cells).IsData) (hwords : HasHeaderWords cells) {body : String}
    (hbody : records body = [columns, cells]) : decode body = .ok [] := by
  have hread := read_of_hasHeaderWords hd.noRemark hwords ⟨some columns, []⟩
  rw [decode, hbody, rowsOf, List.foldlM_cons, read_heading h]
  show (Table.read ⟨some columns, []⟩ cells >>= fun t => pure t).map _ = _
  rw [hread]
  rfl

/-- A data row with a value and a tag that are the words of a header. -/
def lostRow : List String :=
  ["", "_result", "0", "2024-01-01T00:00:00Z", "table", "v", "m", "result"]

def lostBody : String :=
  ",result,table,_time,_value,_field,_measurement,wing\r\n" ++
    ",_result,0,2024-01-01T00:00:00Z,table,v,m,result\r\n"

theorem decode_loses_row : IsHeading wingColumns ∧ (Record.mk wingColumns lostRow).IsData ∧
    records lostBody = [wingColumns, lostRow] ∧
      ¬ ∃ out, decode lostBody = .ok out ∧
        ∃ row ∈ out, (Record.mk wingColumns lostRow).ShownIn row := by
  have hdata : (Record.mk wingColumns lostRow).IsData :=
    ⟨by decide +kernel, by decide +kernel, by decide +kernel, by decide +kernel⟩
  have hbody : records lostBody = [wingColumns, lostRow] := by decide +kernel
  refine ⟨isHeading_wingColumns, hdata, hbody, ?_⟩
  rintro ⟨out, hout, row, hrow, -⟩
  rw [decode_of_hasHeaderWords isHeading_wingColumns hdata (by decide +kernel) hbody] at hout
  cases hout
  cases hrow

end TypedSeries.Csv
