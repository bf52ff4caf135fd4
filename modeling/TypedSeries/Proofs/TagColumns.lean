import TypedSeries.Proofs.ResultRows

/-!
# Tags in a result table

An answer about records of a type has the store's own columns and a column for each tag of the type.
Which columns are the store's is told by their names, so a tag can be taken for one of them.

1. Declared names do not begin with a low line, so those that are taken for the store's are the
   three of `storeNames` (`isUserColumn_tagNames`).
2. A cell among those under the tags is the record's cell under its tag, as no column of the store
   is named like a column of the user (`Record.cell_of_tag`).
3. A column with one of the store's names is in no row (`frame_of_storeName`), and a column `error`
   makes the first data row an error (`rowsOf_errorTable`).

**Main.** `decode_tags`: which tags a decoded answer holds, and when there is no decoded answer.
-/

namespace TypedSeries

/-- The names of the tags of a record type, in order. -/
def RecordType.tagNames (t : RecordType) : List String :=
  (t.fields.filter (·.role = .tag)).map Field.name

namespace Csv

/-- Columns that the store adds to an answer: all those it must have, and none that is taken for the
user's. -/
structure IsStore (store : List String) : Prop where
  all : ∀ name ∈ ["result", "table", timeColumn, valueColumn, fieldColumn, measurementColumn],
    name ∈ store
  own : ∀ name ∈ store, isUserColumn name = false

/-- Names that may be declared and that are taken for the store's. -/
def storeNames : List String := ["", "result", "table"]

/-- The cells of a record under the tags, whose columns come after the store's. -/
def tagCells (store names cells : List String) : List (String × String) :=
  names.zip (cells.drop store.length)

variable {store names cells : List String} {c x : String}

/-! ## Names of tags -/

theorem nodup_tagNames (t : RecordType) : t.tagNames.Nodup :=
  t.wellFormed.distinct.sublist (List.filter_sublist.map _)

/-- A declared tag is taken for the user's unless it has one of the store's names. -/
theorem isUserColumn_tagNames {t : RecordType} (h : c ∈ t.tagNames) :
    isUserColumn c = true ↔ c ∉ storeNames := by
  obtain ⟨f, hf, rfl⟩ := List.mem_map.1 h
  have hreserved : f.name.toList.head? ≠ some '_' := by
    simpa [reservedName] using t.wellFormed.unreserved f (List.mem_filter.1 hf).1
  simp [isUserColumn, storeNames, hreserved, and_assoc]

theorem isUserColumn_of_remark (h : c.toList.head? = some '#') : isUserColumn c = true := by
  have hne : ∀ name : String, name.toList.head? ≠ some '#' → c ≠ name := by
    rintro name hname rfl
    exact hname h
  have hempty := hne "" (by decide)
  have hresult := hne "result" (by decide)
  have htable := hne "table" (by decide)
  simp [isUserColumn, h, hempty, hresult, htable]

namespace IsStore

theorem not_mem (hs : IsStore store) (h : isUserColumn c = true) : c ∉ store := by
  intro hc
  rw [hs.own c hc] at h
  cases h

theorem hasHeaderWords (hs : IsStore store) (names : List String) :
    HasHeaderWords (store ++ names) :=
  .inl ⟨List.mem_append_left _ (hs.all "result" (by simp)),
    List.mem_append_left _ (hs.all "table" (by simp))⟩

theorem noRemark (hs : IsStore store) (names : List String) :
    isAnnotation (store ++ names) = false := by
  cases store with
  | nil => exact absurd (hs.all "result" (by simp)) (by simp)
  | cons s store =>
    have hown := hs.own s List.mem_cons_self
    show decide (s.toList.head? = some '#') = false
    rw [decide_eq_false_iff_not]
    intro hhead
    rw [isUserColumn_of_remark hhead] at hown
    cases hown

theorem isHeading (hs : IsStore store) (hd : names.Nodup) (herror : "error" ∉ names) :
    IsHeading (store ++ names) where
  store := fun name hn => List.mem_append_left _ (hs.all name hn)
  distinct := by
    have hnone : store.filter isUserColumn = [] :=
      List.filter_eq_nil_iff.2 fun name hn => by simp [hs.own name hn]
    rw [List.filter_append, hnone]
    exact hd.filter _
  noError := by
    intro h
    rcases List.mem_append.1 h with h | h
    · exact hs.not_mem (by decide +kernel) h
    · exact herror h
  noRemark := hs.noRemark names

end IsStore

/-! ## Cells under tags -/

theorem Record.cell_append (hc : c ∉ store) (hlen : store.length ≤ cells.length) :
    cell ⟨store ++ names, cells⟩ c = cell ⟨names, cells.drop store.length⟩ c := by
  induction store generalizing cells with
  | nil => rfl
  | cons s store ih =>
    cases cells with
    | nil => exact absurd hlen (by simp)
    | cons y cells =>
      obtain ⟨hne, hc⟩ := not_or.1 (mt List.mem_cons.2 hc)
      rw [List.cons_append, cell_cons, if_neg (Ne.symm hne)]
      exact ih hc (Nat.le_of_succ_le_succ hlen)

theorem Record.cell_of_zip (hd : names.Nodup) (h : (c, x) ∈ names.zip cells) :
    cell ⟨names, cells⟩ c = x := by
  induction names generalizing cells with
  | nil => cases h
  | cons n names ih =>
    cases cells with
    | nil => cases h
    | cons y cells =>
      obtain ⟨hn, hd⟩ := List.nodup_cons.1 hd
      rw [cell_cons]
      rcases List.mem_cons.1 h with he | h
      · cases he
        exact if_pos rfl
      · have hne : n ≠ c := by
          rintro rfl
          exact hn (List.of_mem_zip h).1
        rw [if_neg hne]
        exact ih hd h

/-- The cell under a tag of the user is the record's cell of that name. -/
theorem Record.cell_of_tag (hs : IsStore store) (hd : names.Nodup) (hc : isUserColumn c = true)
    (hlen : cells.length = (store ++ names).length) (h : (c, x) ∈ tagCells store names cells) :
    cell ⟨store ++ names, cells⟩ c = x := by
  rw [List.length_append] at hlen
  rw [cell_append (hs.not_mem hc) (by omega)]
  exact cell_of_zip hd h

/-- A record with a cell for each column has a cell under each tag. -/
theorem exists_mem_tagCells (hc : c ∈ names) (hlen : cells.length = (store ++ names).length) :
    ∃ x, (c, x) ∈ tagCells store names cells := by
  have hdrop : names.length ≤ (cells.drop store.length).length := by
    rw [List.length_drop, hlen, List.length_append]
    omega
  rw [← List.map_fst_zip hdrop] at hc
  obtain ⟨⟨_, x⟩, hx, rfl⟩ := List.mem_map.1 hc
  exact ⟨x, hx⟩

/-! ## Tags that are lost -/

theorem frame_of_storeName {r : Record} (h : c ∈ storeNames) : r.frame c = none := by
  have hstore : isUserColumn c = false ∧ measurementColumn ≠ c ∧ timeColumn ≠ c :=
    (by decide +kernel : ∀ c ∈ storeNames,
      isUserColumn c = false ∧ measurementColumn ≠ c ∧ timeColumn ≠ c) c h
  obtain ⟨huser, hmeasurement, htime⟩ := hstore
  unfold Record.frame
  rw [Record.tag?_of_store huser, if_neg hmeasurement, if_neg htime]
  rfl

/-- A table with a column `error` tells of an error, with the first cell under the column. -/
theorem rowsOf_errorTable {columns : List String} {rows : List (List String)}
    (hremark : isAnnotation columns = false) (hwords : HasHeaderWords columns)
    (herror : "error" ∈ columns) (h : (Record.mk columns cells).Plain) :
    rowsOf (columns :: cells :: rows) =
      .error (.api 400 ((Record.mk columns cells).cell "error")) := by
  unfold rowsOf
  rw [List.foldlM_cons, read_of_hasHeaderWords hremark hwords]
  show ((cells :: rows).foldlM Table.read ⟨some columns, []⟩).map _ = _
  rw [List.foldlM_cons, read_plain h, if_pos herror]
  rfl

/-! ## Answers -/

/-- **Tags of an answer.** Take an answer with the store's columns and the tags of a record type,
whose data rows can only be data. If no tag is named `error`, it is decoded, and every data row is
shown in a row that holds, as text, each cell that is not empty under a tag without a name of the
store's; a tag with one is in no row. If a tag is named `error`, its cell in the first data row
becomes an error of the store. -/
theorem decode_tags {t : RecordType} (hs : IsStore store) (hnames : names.Perm t.tagNames)
    {before after : List (List String)} {body : String}
    (hbody : records body = before ++ (store ++ names) :: after)
    (hbefore : ∀ cells ∈ before, isSkipped cells = true)
    (hrows : ∀ cells ∈ dataRows (store ++ names) after, (Record.mk (store ++ names) cells).Plain) :
    ("error" ∉ t.tagNames → ∃ out, decode body = .ok out ∧
      (∀ cells ∈ dataRows (store ++ names) after, ∃ row ∈ out,
        (Record.mk (store ++ names) cells).ShownIn row ∧
          ∀ tag ∈ tagCells store names cells, tag.2 ≠ "" → tag.1 ∉ storeNames →
            row.get? tag.1 = some (.text tag.2)) ∧
      ∀ row ∈ out, ∀ c ∈ t.tagNames, c ∈ storeNames → row.get? c = none) ∧
    ("error" ∈ t.tagNames → ∀ cells rest, dataRows (store ++ names) after = cells :: rest →
      ∃ message, ("error", message) ∈ tagCells store names cells ∧
        decode body = .error (.api 400 message)) := by
  have hd : names.Nodup := hnames.nodup_iff.2 (nodup_tagNames t)
  have hdecode : decode body = rowsOf ((store ++ names) :: dataRows (store ++ names) after) := by
    rw [decode, hbody]
    exact rowsOf_answer (hs.noRemark names) (hs.hasHeaderWords names) hbefore hrows
  rw [hdecode]
  -- only the data rows are read from here on
  generalize dataRows (store ++ names) after = rows at hrows ⊢
  constructor
  · intro herror
    have hheading := hs.isHeading hd (mt hnames.mem_iff.1 herror)
    have hfilled : ∀ r ∈ rows.map (Record.mk (store ++ names)),
        r.columns = store ++ names ∧ r.Filled := by
      intro r hr
      obtain ⟨cells, hcells, rfl⟩ := List.mem_map.1 hr
      exact ⟨rfl, (hrows cells hcells).toFilled⟩
    refine ⟨_, rowsOf_plain hheading hrows, ?_, ?_⟩
    · intro cells hcells
      have hr := List.mem_map_of_mem (f := Record.mk (store ++ names)) hcells
      have hshown := gather_shownIn hheading hfilled hr
      refine ⟨_, List.mem_map.2 ⟨_, List.mem_eraseDups.2 (List.mem_map_of_mem hr), rfl⟩, hshown, ?_⟩
      rintro ⟨c, x⟩ hx hne hc
      have hmem : c ∈ names := (List.of_mem_zip hx).1
      have huser := (isUserColumn_tagNames (hnames.mem_iff.1 hmem)).2 hc
      have hcell := Record.cell_of_tag hs hd huser (hrows cells hcells).length hx
      rw [hshown.tags c (List.mem_append_right _ hmem) huser, hcell, if_neg hne]
    · intro row hrow c hc hname
      obtain ⟨k, hk, rfl⟩ := List.mem_map.1 hrow
      obtain ⟨r, hr, rfl⟩ := List.mem_map.1 (List.mem_eraseDups.1 hk)
      have hmem : c ∈ store ++ names := List.mem_append_right _ (hnames.mem_iff.2 hc)
      rw [get?_gather_column hheading hfilled hr hmem, frame_of_storeName hname]
  · rintro herror cells rest rfl
    have hplain := hrows cells List.mem_cons_self
    have hmem : "error" ∈ names := hnames.mem_iff.2 herror
    have huser : isUserColumn "error" = true := by decide +kernel
    obtain ⟨message, hmessage⟩ : ∃ message, ("error", message) ∈ tagCells store names cells :=
      exists_mem_tagCells hmem hplain.length
    refine ⟨message, hmessage, ?_⟩
    rw [rowsOf_errorTable (hs.noRemark names) (hs.hasHeaderWords names)
      (List.mem_append_right _ hmem) hplain, Record.cell_of_tag hs hd huser hplain.length hmessage]

/-- The columns of an answer that the store has to add. -/
def plainStore : List String :=
  ["result", "table", "_time", "_value", "_field", "_measurement"]

/-- A record type with a tag of its own and one that is named like a column of the store. -/
def raceType : RecordType where
  name := "race"
  fields := [⟨"rider", .string, .tag⟩, ⟨"result", .string, .tag⟩, ⟨"laps", .integer, .field⟩]
  wellFormed := fault_eq_none_iff.1 (by decide +kernel)

/-- A data row with both tags. -/
def raceRow : List String :=
  ["_result", "0", "2024-01-01T00:00:00Z", "7", "laps", "race", "Ada", "first"]

def raceBody : String :=
  "#group,false\r\n" ++
    "result,table,_time,_value,_field,_measurement,rider,result\r\n" ++
    "_result,0,2024-01-01T00:00:00Z,7,laps,race,Ada,first\r\n\r\n"

theorem isStore_plainStore : IsStore plainStore :=
  ⟨by decide +kernel, by decide +kernel⟩

theorem plain_raceRow : (Record.mk (plainStore ++ raceType.tagNames) raceRow).Plain :=
  ⟨⟨by decide +kernel, by decide +kernel⟩, by decide +kernel, by decide +kernel, by decide +kernel⟩

theorem records_raceBody : records raceBody =
    [["#group", "false"], plainStore ++ raceType.tagNames, raceRow] := by
  decide +kernel

theorem decode_raceBody : ∃ out, decode raceBody = .ok out ∧
    ∃ row ∈ out, row.get? "rider" = some (.text "Ada") ∧ row.get? "result" = none := by
  have hrows : dataRows (plainStore ++ raceType.tagNames) [raceRow] = [raceRow] := by
    decide +kernel
  have hplain : ∀ cells ∈ dataRows (plainStore ++ raceType.tagNames) [raceRow],
      (Record.mk (plainStore ++ raceType.tagNames) cells).Plain := by
    intro cells hcells
    rw [hrows, List.mem_singleton] at hcells
    rw [hcells]
    exact plain_raceRow
  have hbefore : ∀ cells ∈ [["#group", "false"]], isSkipped cells = true := by decide
  obtain ⟨out, hout, hshown, hlost⟩ := (decode_tags isStore_plainStore (.refl raceType.tagNames)
    records_raceBody hbefore hplain).1 (by decide)
  obtain ⟨row, hrow, -, htags⟩ := hshown raceRow (by rw [hrows]; exact List.mem_singleton_self _)
  refine ⟨out, hout, row, hrow, ?_, ?_⟩
  · exact htags ("rider", "Ada") (by decide +kernel) (by decide) (by decide)
  · exact hlost row hrow "result" (by decide) (by decide)

/-- The row of the answer about a race. -/
def raceAnswer : Row :=
  .ofList [(timeColumn, .integer 1704067200000000000), (measurementColumn, .text "race"),
    ("rider", .text "Ada"), ("laps", .text "7")]

/-- A record type with a tag named `error`. -/
def crashType : RecordType where
  name := "crash"
  fields := [⟨"error", .string, .tag⟩, ⟨"laps", .integer, .field⟩]
  wellFormed := fault_eq_none_iff.1 (by decide +kernel)

def crashRow : List String :=
  ["_result", "0", "2024-01-01T00:00:00Z", "7", "laps", "crash", "flat tyre"]

def crashBody : String :=
  "result,table,_time,_value,_field,_measurement,error\r\n" ++
    "_result,0,2024-01-01T00:00:00Z,7,laps,crash,flat tyre\r\n"

theorem records_crashBody : records crashBody = [plainStore ++ crashType.tagNames, crashRow] := by
  decide +kernel

theorem plain_crashRow : (Record.mk (plainStore ++ crashType.tagNames) crashRow).Plain :=
  ⟨⟨by decide +kernel, by decide +kernel⟩, by decide +kernel, by decide +kernel, by decide +kernel⟩

/-- A tag with a name of the store's is in no row, and is empty in the record that is read from the
row; a tag named `error` makes an error of the whole answer. -/
theorem decode_loses_tag :
    RecordType.declare "race" raceType.fields = .ok raceType ∧
      records raceBody = [["#group", "false"], plainStore ++ raceType.tagNames, raceRow] ∧
      (Record.mk (plainStore ++ raceType.tagNames) raceRow).Plain ∧
      ("result", "first") ∈ tagCells plainStore raceType.tagNames raceRow ∧
      decode raceBody = .ok [raceAnswer] ∧ raceAnswer.get? "result" = none ∧
      raceType.hydrate raceAnswer =
        .ok (.ofList [("rider", .text "Ada"), ("result", .text ""), ("laps", .integer 7)]) ∧
    RecordType.declare "crash" crashType.fields = .ok crashType ∧
      records crashBody = [plainStore ++ crashType.tagNames, crashRow] ∧
      (Record.mk (plainStore ++ crashType.tagNames) crashRow).Plain ∧
      ("error", "flat tyre") ∈ tagCells plainStore crashType.tagNames crashRow ∧
      decode crashBody = .error (.api 400 "flat tyre") := by
  have hrace : decode raceBody = .ok [raceAnswer] := by
    unfold decode
    rw [records_raceBody]
    decide +kernel
  have hcrash : decode crashBody = .error (.api 400 "flat tyre") := by
    unfold decode
    rw [records_crashBody]
    decide +kernel
  exact ⟨RecordType.declare_self raceType, records_raceBody, plain_raceRow, by decide +kernel,
    hrace, by decide +kernel, by decide +kernel, RecordType.declare_self crashType,
    records_crashBody, plain_crashRow, by decide +kernel, hcrash⟩

end Csv

end TypedSeries
