import TypedSeries.Proofs.ResultRows

/-!
# Pivoted rows

Which rows an answer has, and what each of them holds, whatever is between its records.

1. The key of a record spells out its time, measurement and tags, so telling records apart by
   these gives the same groups in the same order (`Record.key_eq_spell`, `eraseDups_map`).
2. The row of a group holds, under a name that its records say nothing of, the value of the last
   record with that field (`get?_gather_of_field`); under another name it holds what they say,
   unless the last record puts its value there (`get?_gather_of_frame`).

**Main.** `decode_pivot`: the rows of an answer are those of its groups, and what each holds under
every name.
-/

namespace TypedSeries.Csv

/-- The time, the measurement and the cells of the user's columns of a record. -/
def Record.series (r : Record) : String × String × List String :=
  (r.cell timeColumn, r.cell measurementColumn, (r.columns.filter isUserColumn).map r.cell)

/-- The key that time, measurement and cells under the user's columns are spelled as. -/
def spell (columns : List String) (series : String × String × List String) : List String :=
  series.1 :: series.2.1 ::
    ((columns.filter isUserColumn).zip series.2.2).map fun c => c.1 ++ "=" ++ c.2

theorem Record.key_eq_spell {r : Record} (h : r.Full) : r.key = spell r.columns r.series := by
  rw [key_eq h, spell, series, ← List.map_prod_left_eq_zip, List.map_map]
  rfl

/-- What tells the elements of a list apart keeps their first appearances. -/
theorem eraseDups_map {α β : Type} [BEq α] [LawfulBEq α] [BEq β] [LawfulBEq β] {f : α → β}
    {l : List α} (h : ∀ a ∈ l, ∀ b ∈ l, f a = f b → a = b) :
    (l.map f).eraseDups = l.eraseDups.map f := by
  induction l using List.reverseRecOn with
  | nil => rfl
  | append_singleton l a ih =>
    have hl := ih fun b hb c hc => h b (List.mem_append_left _ hb) c (List.mem_append_left _ hc)
    have hmem : f a ∈ l.map f ↔ a ∈ l := by
      refine ⟨fun hf => ?_, List.mem_map_of_mem⟩
      obtain ⟨b, hb, hab⟩ := List.mem_map.1 hf
      exact h b (List.mem_append_left _ hb) a (by simp) hab ▸ hb
    rw [List.map_append, List.map_singleton, eraseDups_concat, eraseDups_concat, hl,
      List.map_append, if_congr hmem rfl rfl]
    split <;> rfl

/-- A column that the records speak of holds what they say, unless the last of them has it for its
field and puts its value there. -/
theorem get?_gather_of_frame {rs : List Record} {last : Record} {name : String} {v : Value}
    (hlast : rs.getLast? = some last) (hrs : ∀ r ∈ rs, r.Full ∧ r.frame name = some v) :
    (gather rs).get? name = some
      (if last.cell fieldColumn = name then .text (last.cell valueColumn) else v) := by
  obtain ⟨front, rfl⟩ := List.getLast?_eq_some_iff.1 hlast
  obtain ⟨hfull, hframe⟩ := hrs last (by simp)
  rw [gather_concat, Record.get?_addTo hfull, hframe]
  split <;> rfl

section Rows

variable {columns : List String} {rs : List Record}

theorem series_eq_iff (hrs : ∀ r ∈ rs, r.columns = columns ∧ r.Full) {r s : Record} (hr : r ∈ rs)
    (hs : s ∈ rs) : r.series = s.series ↔ r.key = s.key := by
  have hcolumns : r.columns = s.columns := (hrs r hr).1.trans (hrs s hs).1.symm
  rw [Record.key_eq_iff (hrs r hr).2 (hrs s hs).2 hcolumns, Record.series, Record.series,
    Prod.mk.injEq, Prod.mk.injEq, hcolumns, List.map_inj_left]
  simp only [List.mem_filter, and_imp]

/-- Keys and series group records alike. -/
theorem map_gather_key (hrs : ∀ r ∈ rs, r.columns = columns ∧ r.Full) :
    ((rs.map (·.key)).eraseDups.map fun k => gather (rs.filter (·.key = k))) =
      (rs.map (·.series)).eraseDups.map fun k => gather (rs.filter (·.series = k)) := by
  have hspell : ∀ r ∈ rs, r.key = spell columns r.series := fun r hr => by
    obtain ⟨rfl, hfull⟩ := hrs r hr
    exact Record.key_eq_spell hfull
  have hkeys : rs.map (·.key) = (rs.map (·.series)).map (spell columns) := by
    rw [List.map_map]
    exact List.map_congr_left hspell
  have hinj : ∀ a ∈ rs.map (·.series), ∀ b ∈ rs.map (·.series),
      spell columns a = spell columns b → a = b := by
    intro a ha b hb hab
    obtain ⟨r, hr, rfl⟩ := List.mem_map.1 ha
    obtain ⟨s, hs, rfl⟩ := List.mem_map.1 hb
    rw [← hspell r hr, ← hspell s hs] at hab
    exact (series_eq_iff hrs hr hs).2 hab
  rw [hkeys, eraseDups_map hinj, List.map_map]
  refine List.map_congr_left fun k hk => ?_
  obtain ⟨r, hr, rfl⟩ := List.mem_map.1 (List.mem_eraseDups.1 hk)
  refine congrArg gather (List.filter_congr fun s hs => ?_)
  rw [decide_eq_decide, series_eq_iff hrs hs hr, hspell r hr]

/-- Records of one series say the same, their fields apart. -/
theorem frame_of_series (hrs : ∀ r ∈ rs, r.columns = columns ∧ r.Full) {r : Record} (hr : r ∈ rs) :
    ∀ s ∈ rs.filter (·.series = r.series), s.Full ∧ s.frame = r.frame := by
  intro s hs
  obtain ⟨hs, hseries⟩ := List.mem_filter.1 hs
  have hkey := (series_eq_iff hrs hs hr).1 (by simpa using hseries)
  exact ⟨(hrs s hs).2, Record.frame_congr (hrs s hs).2 (hrs r hr).2
    ((hrs s hs).1.trans (hrs r hr).1.symm) hkey⟩

end Rows

/-- **The rows of an answer.** Let the records of an answer be a heading and data rows as long as it
and without the words of a header, and between them blank records and remarks. Then it is decoded:
there is one row for each time, measurement and vector of cells under the user's columns, in the
order in which these first appear. A name that the data rows of one such group say nothing of holds
the value of the last of them with that field, and nothing if there is none. The time, the
measurement and the tags that are not empty hold what the data rows say, unless the very last of
them has the name for its field. -/
theorem decode_pivot {columns : List String} {rows : List (List String)} {body : String}
    (h : IsHeading columns)
    (hbody : (records body).filter (fun cells => !isSkipped cells) = columns :: rows)
    (hrows : ∀ cells ∈ rows, cells.length = columns.length ∧ ¬ HasHeaderWords cells) :
    let rs := rows.map (Record.mk columns)
    ∃ row : String × String × List String → Row,
      decode body = .ok ((rs.map (·.series)).eraseDups.map row) ∧
      ∀ r ∈ rs, ∀ name,
        let group := rs.filter (·.series = r.series)
        (r.frame name = none → (row r.series).get? name =
          (group.filter (·.cell fieldColumn = name)).getLast?.map
            fun s => .text (s.cell valueColumn)) ∧
        ∀ v, r.frame name = some v → ∃ last, group.getLast? = some last ∧ (row r.series).get? name =
          some (if last.cell fieldColumn = name then .text (last.cell valueColumn) else v) := by
  intro rs
  have hrs : ∀ r ∈ rs, r.columns = columns ∧ r.Full := by
    intro r hr
    obtain ⟨cells, hcells, rfl⟩ := List.mem_map.1 hr
    exact ⟨rfl, h, (hrows cells hcells).1⟩
  have hkept : ∀ cells ∈ rows, isSkipped cells = false := by
    intro cells hcells
    have hmem := List.mem_cons_of_mem columns hcells
    rw [← hbody] at hmem
    simpa using (List.mem_filter.1 hmem).2
  refine ⟨fun k => gather (rs.filter (·.series = k)), ?_, fun r hr name => ?_⟩
  · rw [← map_gather_key hrs, ← rowsOf_data h fun c hc => ⟨hkept c hc, (hrows c hc).2⟩, ← hbody]
    exact congrArg (Except.map _) (foldlM_kept (records body) ⟨none, []⟩)
  · have hgroup := frame_of_series hrs hr
    constructor
    · intro hname
      exact get?_gather_of_field fun s hs => ⟨(hgroup s hs).1, by rw [(hgroup s hs).2, hname]⟩
    · intro v hv
      have hmem : r ∈ rs.filter (·.series = r.series) := List.mem_filter.2 ⟨hr, by simp⟩
      have hlast := List.getLast?_eq_some_getLast (List.ne_nil_of_mem hmem)
      refine ⟨_, hlast, get?_gather_of_frame hlast fun s hs => ?_⟩
      exact ⟨(hgroup s hs).1, by rw [(hgroup s hs).2, hv]⟩

/-- Data rows of two wings in turn: a field of the first wing comes again, and another one in
between. -/
def turnedRows : List (List String) :=
  [["", "_result", "0", "2024-01-01T00:00:00Z", "1", "celsius", "room", "west"],
    ["", "_result", "1", "2024-01-01T00:00:00Z", "2", "celsius", "room", ""],
    ["", "_result", "2", "2024-01-01T00:00:00Z", "3", "lux", "room", "west"],
    ["", "_result", "3", "2024-01-01T00:00:00Z", "4", "celsius", "room", "west"]]

/-- The first data row of either wing. -/
def westRecord : Record :=
  ⟨wingColumns, ["", "_result", "0", "2024-01-01T00:00:00Z", "1", "celsius", "room", "west"]⟩

def unnamedRecord : Record :=
  ⟨wingColumns, ["", "_result", "1", "2024-01-01T00:00:00Z", "2", "celsius", "room", ""]⟩

/-- The table of these with a remark before its columns and blank cells and a remark among its data
rows. -/
def turnedBody : String :=
  tableText (["#group", "false"] :: wingColumns ::
    (turnedRows.take 2 ++ ["", "", ""] :: ["# half"] :: turnedRows.drop 2))

theorem records_turnedBody :
    (records turnedBody).filter (fun cells => !isSkipped cells) = wingColumns :: turnedRows := by
  rw [turnedBody, records_tableText (by decide +kernel)]
  decide +kernel

theorem decode_turnedBody :
    IsHeading wingColumns ∧
      (records turnedBody).filter (fun cells => !isSkipped cells) = wingColumns :: turnedRows ∧
      (∀ cells ∈ turnedRows, cells.length = wingColumns.length ∧ ¬ HasHeaderWords cells) ∧
      ∃ west unnamed, decode turnedBody = .ok [west, unnamed] ∧
        west.get? "wing" = some (.text "west") ∧ west.get? "celsius" = some (.text "4") ∧
        west.get? "lux" = some (.text "3") ∧ unnamed.get? "celsius" = some (.text "2") ∧
        unnamed.get? "wing" = none ∧ unnamed.get? "lux" = none := by
  have hrows : ∀ cells ∈ turnedRows,
      cells.length = wingColumns.length ∧ ¬ HasHeaderWords cells := by decide +kernel
  obtain ⟨row, hdecode, hrow⟩ := decode_pivot isHeading_wingColumns records_turnedBody hrows
  have hseries : ((turnedRows.map (Record.mk wingColumns)).map (·.series)).eraseDups =
      [westRecord.series, unnamedRecord.series] := by decide +kernel
  rw [hseries] at hdecode
  have hwest := hrow westRecord (by simp [westRecord, turnedRows])
  have hunnamed := hrow unnamedRecord (by simp [unnamedRecord, turnedRows])
  obtain ⟨last, hlast, hwing⟩ := (hwest "wing").2 (.text "west") (by decide +kernel)
  have hfield : ((turnedRows.map (Record.mk wingColumns)).filter
      (·.series = westRecord.series)).getLast?.map (·.cell fieldColumn) = some "celsius" := by
    decide +kernel
  rw [hlast] at hfield
  have hother : last.cell fieldColumn ≠ "wing" := by
    rw [show last.cell fieldColumn = "celsius" from Option.some.inj hfield]
    decide
  rw [if_neg hother] at hwing
  refine ⟨isHeading_wingColumns, records_turnedBody, hrows, _, _, hdecode, hwing, ?_, ?_, ?_, ?_,
    ?_⟩
  · exact ((hwest "celsius").1 (by decide +kernel)).trans (by decide +kernel)
  · exact ((hwest "lux").1 (by decide +kernel)).trans (by decide +kernel)
  · exact ((hunnamed "celsius").1 (by decide +kernel)).trans (by decide +kernel)
  · exact ((hunnamed "wing").1 (by decide +kernel)).trans (by decide +kernel)
  · exact ((hunnamed "lux").1 (by decide +kernel)).trans (by decide +kernel)

end TypedSeries.Csv
