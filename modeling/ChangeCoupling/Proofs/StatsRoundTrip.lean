import ChangeCoupling.Proofs.ColumnLayout
import ChangeCoupling.Proofs.ExponentBounds
import ChangeCoupling.Proofs.NumberText
import ChangeCoupling.Proofs.StatsInsertion

/-! Which tables survive being written and read. Paths are trimmed and rows end at line feeds, and counts pass through
doubles; what none of this changes is read back, without a warning, and whatever has been read is of that kind. -/

namespace ChangeCoupling

theorem Number.Cell.toCount?_of_count? {cell : String} {n : Nat} (reads : count? cell = some n) :
    (Double.ofNat n).toCount? = some n := by
  obtain ⟨x, number, counts⟩ := Option.bind_eq_some_iff.mp reads
  have finite : x.isFinite = true := by
    unfold number? at number
    dsimp only at number
    split at number
    next =>
      cases number
      rfl
    next =>
      obtain ⟨value, _, kept⟩ := Option.bind_eq_some_iff.mp number
      split at kept
      next finite =>
        cases kept
        exact finite
      next => cases kept
  exact Double.toCount?_ofNat finite counts

namespace StatsTable

/-- What a record takes to be read back: a path on one line that trimming leaves as it is, and counts that stay as they
are when each becomes a double, that is cast to a count again and cut off at the greatest one. -/
structure Storable (record : FileStats) : Prop where
  named : record.path ≠ ""
  trimmed : Text.trim record.path = record.path
  oneLine : '\n' ∉ record.path.toList
  counted : ∀ count ∈ record.counts,
    min Double.maxCount ((Double.ofNat count).units / Double.unitsPerOne) = count

theorem Storable.toCount? {record : FileStats} (storable : Storable record) {count : Nat} (member : count ∈ record.counts) :
    (Double.ofNat count).toCount? = some count := by
  rw [Double.toCount?_ofNat_eq, storable.counted count member]

section Reading

theorem recordOf?_eq_some_iff {path : String} {counts : List Nat} {record : FileStats} :
    recordOf? path counts = some record ↔ record.path = path ∧ record.counts = counts := by
  constructor
  · intro made
    unfold recordOf? at made
    split at made
    next =>
      cases made
      exact ⟨rfl, rfl⟩
    next => cases made
  · rintro ⟨rfl, rfl⟩
    rfl

theorem readRow_kept {layout : Layout} {source : String} {line : Nat} {text : String} {record : FileStats}
    {warnings : List Warning} (kept : readRow layout source line text = .kept record warnings) :
    ∃ cells, Text.Row.split? text = some cells ∧
      record.path = Text.trim (cells.getD layout.path "") ∧ record.path ≠ "" ∧
      layout.counts.map (fun position => Number.Cell.count? (cells.getD position "")) = record.counts.map some := by
  unfold readRow at kept
  split at kept
  · cases kept
  split at kept
  · cases kept
  next cells split =>
    refine ⟨cells, split, ?_⟩
    split at kept
    · cases kept
    dsimp only at kept
    split at kept
    · cases kept
    next named =>
      split at kept
      · cases kept
      next found =>
        cases kept
        obtain ⟨counts, read, made⟩ := Option.bind_eq_some_iff.mp found
        obtain ⟨path, same⟩ := recordOf?_eq_some_iff.mp made
        rw [path, same]
        exact ⟨rfl, by simpa using named, mapM_eq_some_iff.mp read⟩

theorem storable_of_readRow {layout : Layout} {source : String} {line : Nat} {text : String} {record : FileStats}
    {warnings : List Warning} (oneLine : '\n' ∉ text.toList)
    (kept : readRow layout source line text = .kept record warnings) : Storable record := by
  obtain ⟨cells, split, path, named, counts⟩ := readRow_kept kept
  constructor
  · exact named
  · rw [path, Text.trim_trim]
  · intro inside
    rw [path] at inside
    have inCell := Text.mem_of_mem_trim inside
    rw [List.getD_eq_getElem?_getD] at inCell
    cases found : cells[layout.path]? with
    | none => simp [found] at inCell
    | some cell =>
      rw [found, Option.getD_some] at inCell
      exact oneLine (Text.Row.mem_of_mem_split? split (List.mem_of_getElem? found) inCell)
  · intro count member
    have read : some count ∈ record.counts.map some := List.mem_map_of_mem member
    rw [← counts] at read
    obtain ⟨position, _, read⟩ := List.mem_map.mp read
    exact Option.some.inj ((Double.toCount?_ofNat_eq count).symm.trans (Number.Cell.toCount?_of_count? read))

theorem storable_addRow {layout : Layout} {source : String} {state : StatsTable × List Warning} {row : Nat × String}
    (storable : ∀ record ∈ state.1.toList, Storable record) (oneLine : '\n' ∉ row.2.toList) :
    ∀ record ∈ (addRow layout source state row).1.toList, Storable record := by
  unfold addRow
  dsimp only
  split
  next => exact storable
  next => exact storable
  next kept =>
    split
    next => exact storable
    next unknown =>
      intro record member
      rw [toList_insert, if_neg unknown, List.mem_append, List.mem_singleton] at member
      cases member with
      | inl earlier => exact storable record earlier
      | inr last => exact last ▸ storable_of_readRow oneLine kept

/-- Whatever the text is, the table that it holds has storable records only. -/
theorem storable_of_readCsv {source text : String} {table : StatsTable} {warnings : List Warning}
    (read : readCsv source text = .ok (table, warnings)) : ∀ record ∈ table.toList, Storable record := by
  unfold readCsv at read
  split at read
  next => cases read
  next header rows lines =>
    obtain ⟨layout, _, read⟩ := bind_eq_ok read
    have run : rows.foldl (addRow layout source) (empty, []) = (table, warnings) := Except.ok.inj read
    have storable : ∀ record ∈ (rows.foldl (addRow layout source) (empty, [])).1.toList, Storable record := by
      apply List.foldlRecOn (motive := fun state : StatsTable × List Warning =>
        ∀ record ∈ state.1.toList, Storable record)
      · simp [empty, toList]
      · intro state storable row member
        apply storable_addRow storable
        exact Text.lineFeed_not_mem_numberedLines (lines ▸ List.mem_cons_of_mem _ member)
    rwa [run] at storable

end Reading

section Writing

/-- Where the columns of a written table are. -/
def writtenLayout : Layout := { width := 10, path := 0, counts := [1, 2, 3, 4, 5, 6], averages := [7, 8, 9] }

theorem readHeader_columns (source : String) : readHeader source (Text.Row.join columns) = .ok writtenLayout := by
  have layout : layoutOf columns = writtenLayout := by
    rw [layoutOf, writtenLayout, Layout.mk.injEq]
    decide +kernel
  rw [← layout]
  apply readHeader_join
  · decide +kernel
  · decide +kernel

theorem averageAgrees_plain {average : Double} (finite : average.isFinite = true) :
    averageAgrees (Number.plain average) average = true := by
  have near : ¬ tolerance < Double.zero.abs := by decide +kernel
  simp [averageAgrees, Number.Cell.number?_plain finite, Double.sub_self finite, near]

theorem Storable.isFinite_averages {record : FileStats} (storable : Storable record) :
    ∀ average ∈ record.averages, average.isFinite = true := by
  have bounded : ∀ count ∈ record.counts, count ≤ Double.maxCount :=
    fun count member => Double.le_maxCount_of_toCount? (storable.toCount? member)
  have finite {total : Nat} (member : total ∈ record.counts) : (perCommit total record.commits).isFinite = true :=
    isFinite_perCommit (bounded total member) (bounded _ (by simp [FileStats.counts]))
  intro average member
  simp only [FileStats.averages, List.mem_cons, List.not_mem_nil, or_false] at member
  rcases member with rfl | rfl | rfl
  all_goals exact finite (by simp [FileStats.counts])

theorem counts_recordCells (record : FileStats) :
    writtenLayout.counts.map (fun position => (recordCells record).getD position "") = record.counts.map Nat.repr := rfl

theorem averages_recordCells (record : FileStats) :
    writtenLayout.averages.map (fun position => (recordCells record).getD position "") =
      record.averages.map Number.plain := rfl

theorem count?_counts {record : FileStats} (storable : Storable record) :
    (record.counts.map Nat.repr).mapM Number.Cell.count? = some record.counts := by
  rw [mapM_eq_some_iff, List.map_map]
  apply List.map_congr_left
  intro count member
  have counted := storable.toCount? member
  rw [Function.comp_apply, Number.Cell.count?_repr (Double.le_maxCount_of_toCount? counted), counted]

theorem staleAverages_plain {record : FileStats} (storable : Storable record) (source : String) (line : Nat) :
    staleAverages source line record (record.averages.map Number.plain) = [] := by
  have agrees : ∀ average ∈ record.averages, averageAgrees (Number.plain average) average = true :=
    fun average member => averageAgrees_plain (storable.isFinite_averages average member)
  simp only [FileStats.averages, List.forall_mem_cons] at agrees
  simp [staleAverages, averageColumns, FileStats.averages, agrees]

theorem readRow_recordCells {record : FileStats} (storable : Storable record) (source : String) (line : Nat) :
    readRow writtenLayout source line (Text.Row.join (recordCells record)) = .kept record [] := by
  have several : 2 ≤ (recordCells record).length := by simp [recordCells, FileStats.counts]
  have width : (recordCells record).length = writtenLayout.width := rfl
  have path : (recordCells record).getD writtenLayout.path "" = record.path := rfl
  have made : recordOf? record.path record.counts = some record := recordOf?_eq_some_iff.mpr ⟨rfl, rfl⟩
  rw [readRow_join _ _ _ several width, path, counts_recordCells, averages_recordCells, readCells, storable.trimmed,
    count?_counts storable, Option.bind_some, made]
  simp [storable.named, staleAverages_plain storable]

theorem oneLine_recordCells {record : FileStats} (storable : Storable record) :
    ∀ cell ∈ recordCells record, '\n' ∉ cell.toList := by
  intro cell member
  rw [recordCells, List.cons_append, List.mem_cons, List.mem_append] at member
  rcases member with rfl | counted | averaged
  · exact storable.oneLine
  · obtain ⟨count, _, rfl⟩ := List.mem_map.mp counted
    exact (Number.isWord_repr count).not_mem (by decide)
  · obtain ⟨average, inside, rfl⟩ := List.mem_map.mp averaged
    exact (Number.isWord_plain (storable.isFinite_averages average inside)).not_mem (by decide)

/-- Rows of records with paths of their own are taken up one after the other, without a warning. -/
theorem foldl_addRow (source : String) {records : List FileStats} {rows : List (Nat × String)}
    (written : rows.map Prod.snd = records.map fun record => Text.Row.join (recordCells record))
    (storable : ∀ record ∈ records, Storable record) (distinct : (records.map FileStats.path).Nodup)
    (table : StatsTable) (unknown : ∀ record ∈ records, table.mentions record.path = false) (warnings : List Warning) :
    rows.foldl (addRow writtenLayout source) (table, warnings) = (records.foldl insert table, warnings) := by
  induction records generalizing rows table with
  | nil =>
    rw [List.map_nil, List.map_eq_nil_iff] at written
    rw [written]
    rfl
  | cons record records ih =>
    cases rows with
    | nil => cases written
    | cons row rows =>
      obtain ⟨text, others⟩ := List.cons.inj written
      obtain ⟨fresh, distinct⟩ := List.nodup_cons.mp distinct
      have step : addRow writtenLayout source (table, warnings) row = (table.insert record, warnings) := by
        simp [addRow, text, readRow_recordCells (storable record List.mem_cons_self), unknown record List.mem_cons_self]
      rw [List.foldl_cons, List.foldl_cons, step]
      apply ih others (fun record member => storable record (List.mem_cons_of_mem _ member)) distinct
      intro later member
      have other : record.path ≠ later.path := fun same => fresh (same ▸ List.mem_map_of_mem member)
      rw [mentions_insert, unknown later (List.mem_cons_of_mem _ member)]
      simpa using other

theorem readCsv_toCsv_of_storable {table : StatsTable} (consistent : Consistent table)
    (storable : ∀ record ∈ table.toList, Storable record) (source : String) :
    readCsv source table.toCsv = .ok (table, []) := by
  have text : table.toCsv = Text.unlines ((columns :: table.toList.map recordCells).map Text.Row.join) := by
    rw [toCsv, List.map_cons, List.map_map]
    rfl
  have oneLine : ∀ row ∈ columns :: table.toList.map recordCells, ∀ cell ∈ row, '\n' ∉ cell.toList := by
    rw [List.forall_mem_cons]
    refine ⟨by decide +kernel, ?_⟩
    intro row member
    obtain ⟨record, inside, rfl⟩ := List.mem_map.mp member
    exact oneLine_recordCells (storable record inside)
  have lines := Text.Row.numberedLines_join oneLine
  rw [← text, List.zipIdx_cons, List.map_cons] at lines
  have rows : (((table.toList.map recordCells).zipIdx 2).map fun entry => (entry.2, Text.Row.join entry.1)).map Prod.snd =
      table.toList.map fun record => Text.Row.join (recordCells record) := by
    apply List.ext_getElem?
    simp [Function.comp_def]
  have run := foldl_addRow source rows storable consistent.nodup_paths empty (by simp [empty, mentions]) []
  rw [readCsv_of_header lines (readHeader_columns source), run]
  exact congrArg (fun table => Except.ok (table, [])) consistent.rebuilt

end Writing

/-- A table comes back from its text with the same records exactly if all of them are storable, and then there is no
warning either. What else is in a path, quotes and commas and carriage returns included, does not matter. -/
theorem readCsv_toCsv (source : String) (records : List FileStats) :
    ((∃ table warnings, readCsv source (ofRecords records).toCsv = .ok (table, warnings) ∧
        table.toList = (ofRecords records).toList) ↔
      ∀ record ∈ (ofRecords records).toList, Storable record) ∧
    (readCsv source (ofRecords records).toCsv = .ok (ofRecords records, []) ↔
      ∀ record ∈ (ofRecords records).toList, Storable record) := by
  have consistent := consistent_ofRecords records
  refine ⟨⟨?_, ?_⟩, ⟨storable_of_readCsv, fun storable => readCsv_toCsv_of_storable consistent storable source⟩⟩
  · rintro ⟨table, warnings, read, same⟩
    rw [← same]
    exact storable_of_readCsv read
  · intro storable
    exact ⟨_, _, readCsv_toCsv_of_storable consistent storable source, rfl⟩

end StatsTable

end ChangeCoupling
