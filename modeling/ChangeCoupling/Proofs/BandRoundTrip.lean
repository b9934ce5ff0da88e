import ChangeCoupling.Band.Table
import ChangeCoupling.Proofs.Lists
import ChangeCoupling.Proofs.NumberText
import ChangeCoupling.Proofs.RowQuoting

/-! What becomes of a band table that is written and read. Rows with an infinite mean are lost, each with a warning
that names its line; undefined means become zero; and from then on nothing changes any more. -/

namespace ChangeCoupling

namespace Means

def hasInfinity (means : Means) : Bool := means.values.any Double.isInfinite

theorem hasInfinity_map_orZero (means : Means) : (means.map Double.orZero).hasInfinity = means.hasInfinity := by
  simp only [hasInfinity, values, map, List.any_cons, Double.isInfinite_orZero]

theorem map_orZero_map_orZero (means : Means) : (means.map Double.orZero).map Double.orZero = means.map Double.orZero := by
  simp only [map, Double.orZero_orZero]

end Means

namespace BandTable

section Columns

theorem row_push_castSucc (table : BandTable) (means : Means) (position : Fin table.size) :
    (table.push means).row position.castSucc = table.row position := by
  have kept (entries : Vector Double table.size) (x : Double) :
      (entries.push x)[position.castSucc] = entries[position] := Vector.getElem_push_lt position.isLt
  unfold row
  rw [Means.mk.injEq]
  exact ⟨kept .., kept .., kept .., kept .., kept .., kept ..⟩

theorem row_push_last (table : BandTable) (means : Means) : (table.push means).row (Fin.last table.size) = means := by
  have last (entries : Vector Double table.size) (x : Double) : (entries.push x)[Fin.last table.size] = x :=
    Vector.getElem_push_eq
  cases means
  unfold row
  rw [Means.mk.injEq]
  exact ⟨last .., last .., last .., last .., last .., last ..⟩

theorem toList_push (table : BandTable) (means : Means) : (table.push means).toList = table.toList ++ [means] :=
  calc (table.push means).toList
    _ = List.ofFn (fun position : Fin table.size => (table.push means).row position.castSucc) ++
        [(table.push means).row (Fin.last table.size)] := List.ofFn_succ_last
    _ = table.toList ++ [means] := by simp only [row_push_castSucc, row_push_last, toList]

theorem toList_foldl_push (rows : List Means) (table : BandTable) :
    (rows.foldl push table).toList = table.toList ++ rows := by
  induction rows generalizing table with
  | nil => simp
  | cons row rest ih => rw [List.foldl_cons, ih, toList_push, List.append_assoc, List.singleton_append]

theorem band_foldl_push (rows : List Means) (table : BandTable) : (rows.foldl push table).band = table.band := by
  induction rows generalizing table with
  | nil => rfl
  | cons row rest ih => exact ih (table.push row)

theorem namedColumns_eq (table : BandTable) : table.namedColumns.map Prod.snd =
    [table.toList.map Means.added, table.toList.map Means.deleted, table.toList.map Means.changed,
      table.toList.map Means.authors, table.toList.map Means.commits, table.toList.map Means.bugFixes] := by
  have column (entries : Vector Double table.size) :
      entries.toList = List.ofFn fun position : Fin table.size => entries[position] := by
    apply List.ext_getElem
    · simp
    · simp
  simp only [namedColumns, column, toList, List.map_ofFn]
  rfl

end Columns

section Rows

theorem rowText_eq (means : Means) : rowText means = Text.Row.join (means.values.map Number.Cell.write) := by
  refine (Text.Row.join_of_plain ?_).symm
  intro cell member
  obtain ⟨x, _, rfl⟩ := List.mem_map.mp member
  exact Number.Cell.needsQuotes_write x

theorem readRow?_rowText (means : Means) :
    readRow? (rowText means) = if means.hasInfinity then none else some (means.map Double.orZero) := by
  have cells : (means.values.map Number.Cell.write).mapM Number.Cell.number? =
      if means.hasInfinity then none else some (means.values.map Double.orZero) := by
    rw [List.mapM_map]
    simp only [Function.comp_def, Number.Cell.number?_write]
    exact mapM_unless ..
  rw [readRow?, rowText_eq, Text.Row.split?_join (by simp [Means.values]), Option.bind_some, cells]
  split
  next => rfl
  next => rfl

theorem addRow_rowText (table : BandTable) (warnings : List Warning) (line : Nat) (means : Means) :
    addRow (table, warnings) (line, rowText means) =
      if means.hasInfinity then (table, warnings ++ [.badBandRow table.band.slug line])
      else (table.push (means.map Double.orZero), warnings) := by
  have visible : Text.allBlank (rowText means) = false := by
    rw [rowText_eq]
    exact Text.Row.allBlank_join (by simp [Means.values])
  rw [addRow, visible, readRow?_rowText]
  cases means.hasInfinity with
  | true => rfl
  | false => rfl

end Rows

section Reading

/-- The rows that come back. -/
def restored (rows : List Means) : List Means := (rows.filter (!·.hasInfinity)).map (Means.map Double.orZero)

/-- A warning for every other row, with the number of its line if the first row has the given one. -/
def lost (band : Band) (rows : List Means) (first : Nat) : List Warning :=
  ((rows.zipIdx first).filter (·.1.hasInfinity)).map fun entry => .badBandRow band.slug entry.2

theorem foldl_addRow (rows : List Means) (first : Nat) (table : BandTable) (warnings : List Warning) :
    ((rows.zipIdx first).map fun entry => (entry.2, rowText entry.1)).foldl addRow (table, warnings) =
      ((restored rows).foldl push table, warnings ++ lost table.band rows first) := by
  induction rows generalizing first table warnings with
  | nil => simp [restored, lost]
  | cons row rest ih =>
    rw [List.zipIdx_cons, List.map_cons, List.foldl_cons, addRow_rowText]
    cases infinite : row.hasInfinity with
    | true =>
      rw [if_pos rfl, ih]
      simp [restored, lost, List.zipIdx_cons, infinite]
    | false =>
      rw [if_neg Bool.false_ne_true, ih]
      simp [restored, lost, List.zipIdx_cons, infinite, push]

theorem numberedLines_toCsv (table : BandTable) :
    Text.numberedLines table.toCsv = (1, Text.Row.join columns) ::
      (table.toList.zipIdx 2).map fun entry => (entry.2, rowText entry.1) := by
  let cells (means : Means) : List String := means.values.map Number.Cell.write
  have text : table.toCsv = Text.unlines ((columns :: table.toList.map cells).map Text.Row.join) := by
    have header : ",".intercalate columns = Text.Row.join columns := (Text.Row.join_of_plain (by decide +kernel)).symm
    have rows : table.toList.map rowText = (table.toList.map cells).map Text.Row.join := by
      rw [List.map_map]
      exact List.map_congr_left fun means _ => rowText_eq means
    rw [toCsv, header, rows, List.map_cons]
  have oneLine : ∀ row ∈ columns :: table.toList.map cells, ∀ cell ∈ row, '\n' ∉ cell.toList := by
    rw [List.forall_mem_cons]
    refine ⟨by decide +kernel, ?_⟩
    intro row member cell inRow
    obtain ⟨means, _, rfl⟩ := List.mem_map.mp member
    obtain ⟨x, _, rfl⟩ := List.mem_map.mp inRow
    exact Text.Row.lineFeed_not_mem_of_plain (Number.Cell.needsQuotes_write x)
  rw [text, Text.Row.numberedLines_join oneLine, List.zipIdx_cons, List.map_cons, List.zipIdx_map, List.map_map]
  simp only [rowText_eq]
  rfl

theorem readCsv_of_header (band : Band) {text header : String} {line : Nat} {rows : List (Nat × String)}
    {cells : List String} (lines : Text.numberedLines text = (line, header) :: rows)
    (split : Text.Row.split? header = some cells) (named : cells.map Text.trim = columns) :
    readCsv band text = .ok (rows.foldl addRow (empty band, [])) := by
  rw [readCsv, lines]
  dsimp only
  rw [split]
  exact if_pos named

theorem readCsv_written (band : Band) (table : BandTable) :
    readCsv band table.toCsv = .ok ((restored table.toList).foldl push (empty band), lost band table.toList 2) := by
  have header : Text.Row.split? (Text.Row.join columns) = some columns := Text.Row.split?_join (List.cons_ne_nil _ _)
  have trimmed : columns.map Text.trim = columns := by decide +kernel
  rw [readCsv_of_header band (numberedLines_toCsv table) header trimmed, foldl_addRow, List.nil_append]
  rfl

theorem bounded_of_mem_restored {rows : List Means} {means : Means} (member : means ∈ restored rows) :
    means.hasInfinity = false ∧ means.map Double.orZero = means := by
  obtain ⟨row, kept, rfl⟩ := List.mem_map.mp member
  have bounded := (List.mem_filter.mp kept).2
  exact ⟨by simpa [Means.hasInfinity_map_orZero] using bounded, row.map_orZero_map_orZero⟩

theorem restored_restored (rows : List Means) : restored (restored rows) = restored rows := by
  have all : (restored rows).filter (!·.hasInfinity) = restored rows := by
    rw [List.filter_eq_self]
    intro means member
    simp [(bounded_of_mem_restored member).1]
  have unchanged : (restored rows).map (Means.map Double.orZero) = (restored rows).map id :=
    List.map_congr_left fun means member => (bounded_of_mem_restored member).2
  rw [restored, all, unchanged, List.map_id]

theorem lost_restored (band : Band) (rows : List Means) (first : Nat) : lost band (restored rows) first = [] := by
  rw [lost, List.map_eq_nil_iff, List.filter_eq_nil_iff]
  intro entry member
  have listed := List.fst_mem_of_mem_zipIdx member
  simp [(bounded_of_mem_restored listed).1]

end Reading

/-- After rows were pushed into an empty table, each column has one entry for every row, in their order. Reading its
text gives back the rows without infinite means, an undefined mean being zero then, and one warning for each of the
others, which names the line: that of the first row is 2. Reading the text of what was read changes nothing. -/
theorem reload_pushed (band : Band) (rows : List Means) :
    let table := rows.foldl push (empty band)
    table.size = rows.length ∧
    table.namedColumns.map Prod.snd = [rows.map Means.added, rows.map Means.deleted, rows.map Means.changed,
      rows.map Means.authors, rows.map Means.commits, rows.map Means.bugFixes] ∧
    ∃ reloaded,
      readCsv band table.toCsv = .ok (reloaded, ((rows.zipIdx 2).filter (·.1.hasInfinity)).map fun entry =>
        .badBandRow band.slug entry.2) ∧
      reloaded.band = band ∧ reloaded.toList = (rows.filter (!·.hasInfinity)).map (Means.map Double.orZero) ∧
      readCsv band reloaded.toCsv = .ok (reloaded, []) := by
  intro table
  have pushed : table.toList = rows := toList_foldl_push rows (empty band)
  let reloaded := (restored rows).foldl push (empty band)
  have again : reloaded.toList = restored rows := toList_foldl_push (restored rows) (empty band)
  refine ⟨?_, ?_, reloaded, ?_, band_foldl_push _ _, again, ?_⟩
  · rw [← pushed, toList, List.length_ofFn]
  · rw [namedColumns_eq, pushed]
  · rw [readCsv_written, pushed]
    rfl
  · rw [readCsv_written, again, restored_restored, lost_restored]

end BandTable

end ChangeCoupling
