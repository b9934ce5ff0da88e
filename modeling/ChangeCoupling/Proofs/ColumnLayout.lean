import ChangeCoupling.Proofs.Lists
import ChangeCoupling.Proofs.RowQuoting
import ChangeCoupling.StatsTable.Csv

/-! Which cells of a text a statistics table is read from. The reader finds ten columns by their names in the header;
in what order they stand and which other columns stand between them makes no difference. -/

namespace ChangeCoupling.StatsTable

section Reading

/-- The first column of a header with the given name. -/
def position (header : List String) (name : String) : Nat := header.findIdx fun cell => Text.trim cell == name

def layoutOf (header : List String) : Layout where
  width := header.length
  path := position header pathColumn
  counts := countColumns.map (position header)
  averages := averageColumns.map (position header)

/-- Two columns have different names, so that a header with all of them has more than one cell. -/
theorem several_of_present {header : List String} (present : ∀ name ∈ columns, ∃ cell ∈ header, Text.trim cell = name) :
    2 ≤ header.length := by
  obtain ⟨first, inside, named⟩ := present pathColumn (by decide)
  obtain ⟨second, inside', named'⟩ := present "NumberOfAuthors" (by decide)
  have different : first ≠ second := by
    intro same
    rw [same, named'] at named
    exact absurd named (by decide)
  have distinct : [first, second].Nodup := by simpa using different
  exact distinct.length_le_of_subset (by simp [inside, inside'])

theorem readHeader_join (source : String) {header : List String}
    (present : ∀ name ∈ columns, ∃ cell ∈ header, Text.trim cell = name)
    (unmarked : ∀ cell ∈ header, cell.toList.head? ≠ some '\uFEFF') :
    readHeader source (Text.Row.join header) = .ok (layoutOf header) := by
  have found : ∀ name ∈ columns, findColumn source header name = .ok (position header name) := by
    intro name member
    obtain ⟨cell, inside, named⟩ := present name member
    have first := List.findIdx?_eq_some_of_exists (p := fun cell => Text.trim cell == name) ⟨cell, inside, by simp [named]⟩
    rw [findColumn, first]
    rfl
  have counts : countColumns.mapM (findColumn source header) = .ok (countColumns.map (position header)) :=
    mapM_eq_pure fun name member => found name (by simp [columns, member])
  have averages : averageColumns.mapM (findColumn source header) = .ok (averageColumns.map (position header)) :=
    mapM_eq_pure fun name member => found name (by simp [columns, member])
  have several := several_of_present present
  have nonempty : header ≠ [] := List.ne_nil_of_length_pos (by omega)
  have start : (Text.Row.join header).toList.dropWhile (· == '\uFEFF') = (Text.Row.join header).toList := by
    have first := Text.Row.head?_join_ne (by decide) (by decide) unmarked
    cases chars : (Text.Row.join header).toList with
    | nil => rfl
    | cons c rest =>
      rw [chars] at first
      exact List.dropWhile_cons_of_neg (by simpa using first)
  rw [readHeader, Text.Row.allBlank_join several, start, String.ofList_toList, Text.Row.split?_join nonempty]
  simp only [found pathColumn (by simp [columns]), counts, averages]
  rfl

theorem readCsv_of_header {source text header : String} {line : Nat} {rows : List (Nat × String)} {layout : Layout}
    (lines : Text.numberedLines text = (line, header) :: rows) (read : readHeader source header = .ok layout) :
    readCsv source text = .ok (rows.foldl (addRow layout source) (empty, [])) := by
  rw [readCsv, lines]
  dsimp only
  rw [read]
  rfl

/-- What a row comes to, given its cells in the columns that are looked for. -/
def readCells (source : String) (line : Nat) (path : String) (counts averages : List String) : RowResult :=
  if (Text.trim path).isEmpty then .dropped (.noFileName source line)
  else ((counts.mapM Number.Cell.count?).bind (recordOf? (Text.trim path))).elim (.dropped (.badCounts source line))
    fun record => .kept record (staleAverages source line record averages)

theorem readRow_join (layout : Layout) (source : String) (line : Nat) {cells : List String}
    (several : 2 ≤ cells.length) (width : cells.length = layout.width) :
    readRow layout source line (Text.Row.join cells) =
      readCells source line (cells.getD layout.path "") (layout.counts.map (cells.getD · ""))
        (layout.averages.map (cells.getD · "")) := by
  have nonempty : cells ≠ [] := List.ne_nil_of_length_pos (by omega)
  rw [readRow, Text.Row.allBlank_join several, Text.Row.split?_join nonempty, readCells, List.mapM_map]
  simp only [width, bne_self_eq_false, Bool.false_eq_true, if_false, Function.comp_def]
  split
  next => rfl
  next =>
    cases (layout.counts.mapM fun position => Number.Cell.count? (cells.getD position "")).bind
        (recordOf? (Text.trim (cells.getD layout.path ""))) with
    | none => rfl
    | some record => rfl

end Reading

/-- A column of a text that has so many rows below its header. -/
structure Column (height : Nat) where
  name : String
  cells : Fin height → String

def Column.isNamed (name : String) (column : Column height) : Bool := Text.trim column.name == name

abbrev Sheet (height : Nat) := List (Column height)

namespace Sheet

open Column

variable {height : Nat} {sheet sheet' : Sheet height}

def header (sheet : Sheet height) : List String := sheet.map Column.name

def row (sheet : Sheet height) (position : Fin height) : List String := sheet.map fun column => column.cells position

/-- The header and then one row after the other, each on a line of its own. -/
def text (sheet : Sheet height) : String :=
  Text.unlines (Text.Row.join sheet.header :: List.ofFn fun position => Text.Row.join (sheet.row position))

/-- Every column that the reader looks for is there once. -/
def Complete (sheet : Sheet height) : Prop := ∀ name ∈ columns, sheet.countP (isNamed name) = 1

/-- No cell breaks a line, and no name starts with a byte order mark. -/
structure Clean (sheet : Sheet height) : Prop where
  names : ∀ column ∈ sheet, '\n' ∉ column.name.toList ∧ column.name.toList.head? ≠ some '\uFEFF'
  cells : ∀ column ∈ sheet, ∀ position, '\n' ∉ (column.cells position).toList

/-- The columns are put in another order, or columns that the reader does not look for come in or go out. -/
inductive Rearranged : Sheet height → Sheet height → Prop
  | reorder {sheet sheet' : Sheet height} (same : sheet.Perm sheet') : Rearranged sheet sheet'
  | insert (front back : Sheet height) {column : Column height} (other : Text.trim column.name ∉ columns) :
    Rearranged (front ++ back) (front ++ column :: back)
  | remove (front back : Sheet height) {column : Column height} (other : Text.trim column.name ∉ columns) :
    Rearranged (front ++ column :: back) (front ++ back)
  | trans {first second third : Sheet height} (before : Rearranged first second) (after : Rearranged second third) :
    Rearranged first third

theorem Rearranged.filter_isNamed (rearranged : Rearranged sheet sheet') {name : String} (isColumn : name ∈ columns) :
    (sheet.filter (isNamed name)).Perm (sheet'.filter (isNamed name)) := by
  have skipped {column : Column height} (other : Text.trim column.name ∉ columns) : ¬ isNamed name column = true := by
    intro named
    exact other (beq_iff_eq.mp named ▸ isColumn)
  induction rearranged with
  | reorder same => exact same.filter _
  | insert front back other => rw [List.filter_append, List.filter_append, List.filter_cons_of_neg (skipped other)]
  | remove front back other => rw [List.filter_append, List.filter_append, List.filter_cons_of_neg (skipped other)]
  | trans before after first second => exact first.trans second

/-- The cell of a row in the first column with the given name. -/
def cellUnder (sheet : Sheet height) (position : Fin height) (name : String) : String :=
  ((sheet.find? (isNamed name)).map fun column => column.cells position).getD ""

theorem Rearranged.cellUnder_eq (rearranged : Rearranged sheet sheet') (complete : sheet.Complete) {name : String}
    (isColumn : name ∈ columns) (position : Fin height) :
    sheet'.cellUnder position name = sheet.cellUnder position name := by
  have same := rearranged.filter_isNamed isColumn
  have once := complete name isColumn
  rw [List.countP_eq_length_filter] at once
  obtain ⟨column, only⟩ := List.length_eq_one_iff.mp once
  rw [only] at same
  rw [cellUnder, cellUnder, ← List.head?_filter, ← List.head?_filter, only, List.perm_singleton.mp same.symm]

theorem Complete.rearranged (complete : sheet.Complete) (rearranged : Rearranged sheet sheet') : sheet'.Complete := by
  intro name isColumn
  rw [← complete name isColumn, List.countP_eq_length_filter, List.countP_eq_length_filter,
    (rearranged.filter_isNamed isColumn).length_eq]

theorem getD_position (sheet : Sheet height) (position : Fin height) (name : String) :
    (sheet.row position).getD (StatsTable.position sheet.header name) "" = sheet.cellUnder position name := by
  have index : StatsTable.position sheet.header name = sheet.findIdx (isNamed name) := List.findIdx_map ..
  rw [index, row, List.getD_eq_getElem?_getD, List.getElem?_map, ← List.find?_eq_getElem?_findIdx, cellUnder]

theorem Complete.present (complete : sheet.Complete) :
    ∀ name ∈ columns, ∃ cell ∈ sheet.header, Text.trim cell = name := by
  intro name isColumn
  have positive : 0 < sheet.countP (isNamed name) := Nat.lt_of_lt_of_eq Nat.one_pos (complete name isColumn).symm
  obtain ⟨column, inside, named⟩ := List.countP_pos_iff.mp positive
  exact ⟨column.name, List.mem_map_of_mem inside, beq_iff_eq.mp named⟩

theorem Clean.oneLine (clean : sheet.Clean) :
    ∀ row ∈ sheet.header :: List.ofFn sheet.row, ∀ cell ∈ row, '\n' ∉ cell.toList := by
  intro row member cell inRow
  cases List.mem_cons.mp member with
  | inl isHeader =>
    subst isHeader
    obtain ⟨column, inside, rfl⟩ := List.mem_map.mp inRow
    exact (clean.names column inside).1
  | inr isRow =>
    obtain ⟨position, rfl⟩ := List.mem_ofFn.mp isRow
    obtain ⟨column, inside, rfl⟩ := List.mem_map.mp inRow
    exact clean.cells column inside position

theorem Complete.readRow_row (complete : sheet.Complete) (source : String) (line : Nat) (position : Fin height) :
    readRow (layoutOf sheet.header) source line (Text.Row.join (sheet.row position)) =
      readCells source line (sheet.cellUnder position pathColumn) (countColumns.map (sheet.cellUnder position))
        (averageColumns.map (sheet.cellUnder position)) := by
  have several := several_of_present complete.present
  have width : (sheet.row position).length = sheet.header.length := by simp [row, header]
  rw [readRow_join _ _ _ (by omega) width]
  simp only [layoutOf, List.map_map, Function.comp_def, getD_position]

theorem Rearranged.addRow_eq (rearranged : sheet.Rearranged sheet') (complete : sheet.Complete) (source : String)
    (state : StatsTable × List Warning) (line : Nat) (position : Fin height) :
    addRow (layoutOf sheet'.header) source state (line, Text.Row.join (sheet'.row position)) =
      addRow (layoutOf sheet.header) source state (line, Text.Row.join (sheet.row position)) := by
  have same : ∀ name ∈ columns, sheet'.cellUnder position name = sheet.cellUnder position name :=
    fun name isColumn => rearranged.cellUnder_eq complete isColumn position
  have path := same pathColumn (by simp [columns])
  have counts : countColumns.map (sheet'.cellUnder position) = countColumns.map (sheet.cellUnder position) :=
    List.map_congr_left fun name member => same name (by simp [columns, member])
  have averages : averageColumns.map (sheet'.cellUnder position) = averageColumns.map (sheet.cellUnder position) :=
    List.map_congr_left fun name member => same name (by simp [columns, member])
  have result : readRow (layoutOf sheet'.header) source line (Text.Row.join (sheet'.row position)) =
      readRow (layoutOf sheet.header) source line (Text.Row.join (sheet.row position)) := by
    rw [(complete.rearranged rearranged).readRow_row, complete.readRow_row, path, counts, averages]
  simp only [addRow, result]

/-- Reading takes up the rows one after the other. -/
theorem readCsv_text (complete : sheet.Complete) (clean : sheet.Clean) (source : String) :
    readCsv source sheet.text = .ok ((List.finRange height).foldl (fun state position =>
      addRow (layoutOf sheet.header) source state (position.val + 2, Text.Row.join (sheet.row position))) (empty, [])) := by
  have unmarked : ∀ cell ∈ sheet.header, cell.toList.head? ≠ some '\uFEFF' := by
    intro cell member
    obtain ⟨column, inside, rfl⟩ := List.mem_map.mp member
    exact (clean.names column inside).2
  have lines : Text.numberedLines sheet.text = (1, Text.Row.join sheet.header) ::
      (List.finRange height).map fun position => (position.val + 2, Text.Row.join (sheet.row position)) := by
    have written : sheet.text = Text.unlines ((sheet.header :: List.ofFn sheet.row).map Text.Row.join) := by
      rw [text, List.map_cons, List.map_ofFn]
      rfl
    rw [written, Text.Row.numberedLines_join clean.oneLine, List.zipIdx_cons, List.map_cons]
    congr 1
    apply List.ext_getElem
    · simp
    · intro index _ _
      simp [Nat.add_comm]
  rw [readCsv_of_header lines (readHeader_join source complete.present unmarked), List.foldl_map]

end Sheet

/-- The statistics that are read depend on the names of the columns and not on their places. If each of the ten columns
occurs once, then the same records are read in the same order and with the same warnings after the columns were put in
another order and others were inserted or removed. -/
theorem readCsv_rearranged {height : Nat} {sheet sheet' : Sheet height} (rearranged : sheet.Rearranged sheet')
    (complete : sheet.Complete) (clean : sheet.Clean) (clean' : sheet'.Clean) (source : String) :
    ∃ table warnings, readCsv source sheet.text = .ok (table, warnings) ∧
      readCsv source sheet'.text = .ok (table, warnings) := by
  refine ⟨_, _, Sheet.readCsv_text complete clean source, ?_⟩
  rw [Sheet.readCsv_text (complete.rearranged rearranged) clean' source]
  congr 1
  apply List.foldl_ext
  intro state position _
  exact rearranged.addRow_eq complete source state _ position

/-- The columns the other way round, with remarks before them that hold a comma and quotes. -/
theorem readCsv_rearranged_reverse :
    let sheet : Sheet 2 := (columns.zip ["src/a,b", "8", "4", "12", "2", "4", "0", "2", "1", "7"]).map
      fun (name, cell) => ⟨name, fun _ => cell⟩
    let sheet' : Sheet 2 := ⟨" Remark", fun _ => "new, or \"moved\""⟩ :: sheet.reverse
    sheet.Complete ∧ sheet.Clean ∧ sheet'.Clean ∧ sheet.Rearranged sheet' ∧
      ∃ table warnings, readCsv "stats" sheet.text = .ok (table, warnings) ∧
        readCsv "stats" sheet'.text = .ok (table, warnings) := by
  intro sheet sheet'
  have complete : sheet.Complete := by
    unfold Sheet.Complete
    decide +kernel
  have clean : sheet.Clean := ⟨by decide +kernel, by decide +kernel⟩
  have clean' : sheet'.Clean := ⟨by decide +kernel, by decide +kernel⟩
  have reversed : Sheet.Rearranged sheet sheet.reverse := .reorder (List.reverse_perm sheet).symm
  have rearranged : Sheet.Rearranged sheet sheet' := reversed.trans (.insert [] sheet.reverse (by decide +kernel))
  exact ⟨complete, clean, clean', rearranged, readCsv_rearranged rearranged complete clean clean' "stats"⟩

end ChangeCoupling.StatsTable
