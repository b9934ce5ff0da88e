import ChangeCoupling.Proofs.StatsRoundTrip

/-! No row of a statistics text is lost in silence. A row that is not blank has its record in the table or a warning with
its line number, and which of the two depends on the rows above it only through the files that these name. So the rows
that are left out may as well be taken out of the text. -/

namespace ChangeCoupling

namespace Warning

def Field.count? : Field → Option Nat
  | .count value => some value
  | _ => none

/-- The line number in the details of a warning. -/
def line? (warning : Warning) : Option Nat := (warning.fields.lookup "line").bind Field.count?

end Warning

namespace StatsTable

variable {layout : Layout} {source : String}

section Header

def Layout.positions (layout : Layout) : List Nat := layout.path :: layout.counts ++ layout.averages

theorem findColumn_lt {header : List String} {name : String} {position : Nat}
    (found : findColumn source header name = .ok position) : position < header.length := by
  unfold findColumn at found
  split at found
  next first =>
    cases found
    exact (List.findIdx?_eq_some_iff_getElem.mp first).1
  next => cases found

theorem of_readHeader {line : String} (accepted : readHeader source line = .ok layout) :
    Text.allBlank line = false ∧ ∀ position ∈ layout.positions, position < layout.width := by
  unfold readHeader at accepted
  split at accepted
  next => cases accepted
  next visible =>
    refine ⟨Bool.eq_false_iff.mpr visible, ?_⟩
    split at accepted
    next => cases accepted
    next header _ =>
      obtain ⟨path, foundPath, accepted⟩ := bind_eq_ok accepted
      obtain ⟨counts, foundCounts, accepted⟩ := bind_eq_ok accepted
      obtain ⟨averages, foundAverages, accepted⟩ := bind_eq_ok accepted
      cases accepted
      have inside {names : List String} {positions : List Nat}
          (found : names.mapM (findColumn source header) = .ok positions) :
          ∀ position ∈ positions, position < header.length := by
        intro position member
        obtain ⟨name, _, foundName⟩ := exists_of_mem_mapM found member
        exact findColumn_lt foundName
      intro position member
      rw [Layout.positions, List.mem_append, List.mem_cons] at member
      rcases member with (rfl | counted) | averaged
      · exact findColumn_lt foundPath
      · exact inside foundCounts position counted
      · exact inside foundAverages position averaged

end Header

section Rows

/-- The record on a line, if it has as many cells as the header, a file name and counts. -/
def rowRecord? (layout : Layout) (text : String) : Option FileStats :=
  if Text.allBlank text then none
  else (Text.Row.split? text).bind fun cells =>
    if cells.length != layout.width then none
    else if (Text.trim (cells.getD layout.path "")).isEmpty then none
    else (layout.counts.mapM fun position => Number.Cell.count? (cells.getD position "")).bind
      (recordOf? (Text.trim (cells.getD layout.path "")))

theorem rowRecord?_of_allBlank {text : String} (blank : Text.allBlank text = true) : rowRecord? layout text = none :=
  if_pos blank

/-- What a row may come to, by the record on it. -/
inductive Outcome (layout : Layout) (line : Nat) (text : String) : RowResult → Prop
  | blank (blank : Text.allBlank text = true) : Outcome layout line text .blank
  | dropped {warning : Warning} (visible : Text.allBlank text = false) (unreadable : rowRecord? layout text = none)
    (drops : warning.dropsRow = true) (numbered : warning.line? = some line) :
    Outcome layout line text (.dropped warning)
  | kept {record : FileStats} {warnings : List Warning} (visible : Text.allBlank text = false)
    (readable : rowRecord? layout text = some record) (harmless : ∀ warning ∈ warnings, warning.dropsRow = false) :
    Outcome layout line text (.kept record warnings)

theorem dropsRow_staleAverages {line : Nat} {record : FileStats} {stored : List String} :
    ∀ warning ∈ staleAverages source line record stored, warning.dropsRow = false := by
  intro warning member
  obtain ⟨entry, _, reported⟩ := List.mem_filterMap.mp member
  dsimp only at reported
  split at reported
  next => cases reported
  next =>
    cases reported
    rfl

theorem outcome_readRow (layout : Layout) (source : String) (line : Nat) (text : String) :
    Outcome layout line text (readRow layout source line text) := by
  unfold readRow
  split
  next blank => exact .blank blank
  next notBlank =>
    have visible := Bool.eq_false_iff.mpr notBlank
    split
    next unterminated => exact .dropped visible (by simp [rowRecord?, unterminated]) rfl rfl
    next cells divided =>
      have record : rowRecord? layout text = if cells.length != layout.width then none
          else if (Text.trim (cells.getD layout.path "")).isEmpty then none
          else (layout.counts.mapM fun position => Number.Cell.count? (cells.getD position "")).bind
            (recordOf? (Text.trim (cells.getD layout.path ""))) := by
        rw [rowRecord?, if_neg notBlank, divided, Option.bind_some]
      split
      next otherCount => exact .dropped visible (by rw [record, if_pos otherCount]) rfl rfl
      next sameCount =>
        rw [if_neg sameCount] at record
        dsimp only
        split
        next unnamed => exact .dropped visible (by rw [record, if_pos unnamed]) rfl rfl
        next named =>
          rw [if_neg named] at record
          split
          next uncounted => exact .dropped visible (record.trans uncounted) rfl rfl
          next counted => exact .kept visible (record.trans counted) dropsRow_staleAverages

/-- A row brings its record into the table. It has one warning that names it, unless it is blank or its file is new. -/
theorem addRow_eq (layout : Layout) (source : String) (table : StatsTable) (warnings : List Warning)
    (row : Nat × String) :
    ∃ more, addRow layout source (table, warnings) row =
        ((rowRecord? layout row.2).elim table table.insert, warnings ++ more) ∧
      (more.filter Warning.dropsRow).map Warning.line? =
        if !Text.allBlank row.2 && (rowRecord? layout row.2).all (table.mentions ·.path) then [some row.1] else [] := by
  have outcome := outcome_readRow layout source row.1 row.2
  unfold addRow
  generalize readRow layout source row.1 row.2 = result at outcome
  cases outcome with
  | blank blank => exact ⟨[], by simp [rowRecord?_of_allBlank blank], by simp [blank]⟩
  | @dropped warning visible unreadable drops numbered =>
    exact ⟨[warning], by simp [unreadable], by simp [visible, unreadable, drops, numbered]⟩
  | @kept record stale visible readable harmless =>
    have noDrop : stale.filter Warning.dropsRow = [] :=
      List.filter_eq_nil_iff.mpr fun warning member => Bool.eq_false_iff.mp (harmless warning member)
    by_cases known : table.mentions record.path = true
    · refine ⟨stale ++ [.duplicateFile source row.1 record.path], ?_, ?_⟩
      · simp [readable, known, insert_of_mentions known]
      · rw [List.filter_append, noDrop, visible, readable, Option.all_some, known]
        rfl
    · exact ⟨stale, by simp [readable, known], by simp [readable, known, noDrop]⟩

end Rows

section Runs

variable {rows : List (Nat × String)} {row : Nat × String}

/-- The table of the records on some lines. -/
def tableOf (layout : Layout) (texts : List String) : StatsTable := ofRecords (texts.filterMap (rowRecord? layout))

theorem mentions_tableOf {texts : List String} {path : String} :
    (tableOf layout texts).mentions path = true ↔
      ∃ text ∈ texts, ∃ record, rowRecord? layout text = some record ∧ record.path = path := by
  rw [tableOf, mentions_ofRecords, List.any_eq_true]
  simp only [List.mem_filterMap, beq_iff_eq]
  constructor
  · intro mentioned
    obtain ⟨record, ⟨text, inside, readable⟩, same⟩ := mentioned
    exact ⟨text, inside, record, readable, same⟩
  · intro mentioned
    obtain ⟨text, inside, record, readable, same⟩ := mentioned
    exact ⟨record, ⟨text, inside, readable⟩, same⟩

/-- A row that is not blank and yet not in the table: it has no record, or a row above it has one of the same file. -/
def isDropped (layout : Layout) (rows : List (Nat × String)) (row : Nat × String) : Bool :=
  !Text.allBlank row.2 && (rowRecord? layout row.2).all fun record =>
    rows.any fun above => above.1 < row.1 && (rowRecord? layout above.2).any (·.path == record.path)

def isKept (layout : Layout) (rows : List (Nat × String)) (row : Nat × String) : Bool :=
  !Text.allBlank row.2 && !isDropped layout rows row

/-- Where the rows are numbered in their order, those above are the ones before. -/
theorem isDropped_middle (layout : Layout) {above below : List (Nat × String)}
    (sorted : (above ++ row :: below).Pairwise (·.1 < ·.1)) :
    isDropped layout (above ++ row :: below) row = (!Text.allBlank row.2 &&
      (rowRecord? layout row.2).all ((tableOf layout (above.map Prod.snd)).mentions ·.path)) := by
  obtain ⟨_, fromRow, apart⟩ := List.pairwise_append.mp sorted
  have before : ∀ other ∈ above, other.1 < row.1 := fun other member => apart other member row List.mem_cons_self
  have notBefore : ∀ other ∈ row :: below, ¬ other.1 < row.1 := by
    rw [List.forall_mem_cons]
    exact ⟨Nat.lt_irrefl _, fun other member => Nat.lt_asymm ((List.pairwise_cons.mp fromRow).1 other member)⟩
  have earlier (path : String) : (above ++ row :: below).any (fun other => other.1 < row.1 &&
      (rowRecord? layout other.2).any (·.path == path)) = (tableOf layout (above.map Prod.snd)).mentions path := by
    rw [Bool.eq_iff_iff, mentions_tableOf, List.any_eq_true]
    simp only [Bool.and_eq_true, decide_eq_true_eq, Option.any_eq_true, beq_iff_eq, List.mem_map, exists_exists_and_eq_and]
    constructor
    · intro named
      obtain ⟨other, inside, isBefore, record, readable, same⟩ := named
      cases List.mem_append.mp inside with
      | inl inAbove => exact ⟨other, inAbove, record, readable, same⟩
      | inr notAbove => exact absurd isBefore (notBefore other notAbove)
    · intro named
      obtain ⟨other, inAbove, record, readable, same⟩ := named
      exact ⟨other, List.mem_append_left _ inAbove, before other inAbove, record, readable, same⟩
  simp only [isDropped, earlier]

theorem isDropped_concat {other : Nat × String} (below : ¬ row.1 < other.1) :
    isDropped layout (rows ++ [row]) other = isDropped layout rows other := by
  simp [isDropped, below]

/-- The table has the records of the rows that are kept, and the others have their warnings. -/
structure Accounting (layout : Layout) (rows : List (Nat × String)) (state : StatsTable × List Warning) : Prop where
  table : state.1 = tableOf layout (rows.map Prod.snd)
  kept : state.1.toList.map some = (rows.filter (isKept layout rows)).map fun row => rowRecord? layout row.2
  dropped : (state.2.filter Warning.dropsRow).map Warning.line? = (rows.filter (isDropped layout rows)).map (some ·.1)

namespace Accounting

variable {state : StatsTable × List Warning}

theorem addRow (accounting : Accounting layout rows state) (sorted : (rows ++ [row]).Pairwise (·.1 < ·.1)) :
    Accounting layout (rows ++ [row]) (addRow layout source state row) := by
  obtain ⟨more, added, reported⟩ := addRow_eq layout source state.1 state.2 row
  have last := isDropped_middle layout sorted
  rw [← accounting.table] at last
  -- What becomes of the rows before does not depend on a row that is below them.
  have same : ∀ other ∈ rows, isDropped layout (rows ++ [row]) other = isDropped layout rows other := by
    intro other member
    have before := (List.pairwise_append.mp sorted).2.2 other member row (List.mem_singleton_self row)
    exact isDropped_concat (Nat.lt_asymm before)
  have sameKept : ∀ other ∈ rows, isKept layout (rows ++ [row]) other = isKept layout rows other :=
    fun other member => by rw [isKept, isKept, same other member]
  rw [added]
  constructor
  · dsimp only
    rw [accounting.table, tableOf, tableOf, List.map_append, List.filterMap_append]
    cases readable : rowRecord? layout row.2 with
    | none => simp [readable]
    | some record => simp [readable, ofRecords_concat]
  · dsimp only
    rw [List.filter_append, List.map_append, List.filter_congr sameKept, ← accounting.kept, List.filter_singleton, isKept,
      last]
    cases readable : rowRecord? layout row.2 with
    | none => simp
    | some record =>
      have visible : Text.allBlank row.2 = false := by
        rw [Bool.eq_false_iff]
        intro blank
        simp [rowRecord?_of_allBlank blank] at readable
      rw [Option.elim_some, toList_insert, visible]
      by_cases known : state.1.mentions record.path = true
      · simp [known]
      · simp [known, readable]
  · dsimp only
    rw [List.filter_append, List.map_append, accounting.dropped, reported, ← last, List.filter_append, List.map_append,
      List.filter_congr same, List.filter_singleton]
    cases isDropped layout (rows ++ [row]) row with
    | true => rfl
    | false => rfl

theorem foldl (layout : Layout) (source : String) (sorted : rows.Pairwise (·.1 < ·.1)) :
    Accounting layout rows (rows.foldl (StatsTable.addRow layout source) (empty, [])) := by
  induction rows using List.reverseRecOn with
  | nil => exact ⟨rfl, rfl, rfl⟩
  | append_singleton rows row ih =>
    rw [List.foldl_concat]
    exact (ih (List.pairwise_append.mp sorted).1).addRow sorted

theorem length_visible (accounting : Accounting layout rows state) :
    (rows.filter fun row => !Text.allBlank row.2).length =
      state.1.size + (state.2.filter Warning.dropsRow).length := by
  have kept : state.1.size = rows.countP (isKept layout rows) := by
    simpa [size, toList, List.countP_eq_length_filter] using congrArg List.length accounting.kept
  have dropped : (state.2.filter Warning.dropsRow).length = rows.countP (isDropped layout rows) := by
    simpa [List.countP_eq_length_filter] using congrArg List.length accounting.dropped
  have visible : ∀ row ∈ rows, (!Text.allBlank row.2 && isDropped layout rows row) = isDropped layout rows row := by
    intro row _
    simp [isDropped]
  rw [kept, dropped, ← List.countP_eq_length_filter, List.countP_eq_countP_filter_add _ _ (isDropped layout rows),
    List.countP_filter, List.countP_filter, Nat.add_comm]
  congr 1
  exact List.countP_congr fun row member => by rw [visible row member]

theorem isDropped_of_warning (accounting : Accounting layout rows state) {warning : Warning} (member : warning ∈ state.2)
    (drops : warning.dropsRow = true) {number : Nat} (numbered : warning.line? = some number) :
    ∃ row ∈ rows, isDropped layout rows row = true ∧ row.1 = number := by
  have listed : some number ∈ (state.2.filter Warning.dropsRow).map Warning.line? :=
    List.mem_map.mpr ⟨warning, List.mem_filter.mpr ⟨member, drops⟩, numbered⟩
  rw [accounting.dropped] at listed
  obtain ⟨row, inside, same⟩ := List.mem_map.mp listed
  obtain ⟨inRows, dropped⟩ := List.mem_filter.mp inside
  exact ⟨row, inRows, dropped, Option.some.inj same⟩

end Accounting

/-- A row that is blank or dropped can be left out. -/
theorem tableOf_without {above below : List (Nat × String)} (sorted : (above ++ row :: below).Pairwise (·.1 < ·.1))
    (skipped : Text.allBlank row.2 = true ∨ isDropped layout (above ++ row :: below) row = true) :
    tableOf layout ((above ++ row :: below).map Prod.snd) = tableOf layout ((above ++ below).map Prod.snd) := by
  have known : ∀ record, rowRecord? layout row.2 = some record →
      (tableOf layout (above.map Prod.snd)).mentions record.path = true := by
    intro record readable
    cases skipped with
    | inl blank => simp [rowRecord?_of_allBlank blank] at readable
    | inr dropped =>
      rw [isDropped_middle layout sorted, readable, Bool.and_eq_true] at dropped
      exact dropped.2
  simp only [List.map_append, List.map_cons, tableOf, List.filterMap_append, List.filterMap_cons]
  cases readable : rowRecord? layout row.2 with
  | none => rfl
  | some record =>
    rw [ofRecords, List.foldl_append, List.foldl_cons, ← ofRecords, ← tableOf,
      insert_of_mentions (known record readable), tableOf, ofRecords, ofRecords, List.foldl_append]

end Runs

section Texts

variable {text header : String} {rows : List (Nat × String)}

theorem readCsv_accounting (lines : Text.numberedLines text = (1, header) :: rows)
    (accepted : readHeader source header = .ok layout) :
    ∃ table warnings, readCsv source text = .ok (table, warnings) ∧ Accounting layout rows (table, warnings) := by
  have sorted := Text.numberedLines_sorted text
  rw [lines] at sorted
  exact ⟨_, _, readCsv_of_header lines accepted, .foldl layout source (List.pairwise_cons.mp sorted).2⟩

theorem exists_readCsv {texts : List String} (lines : Text.lines text = header :: texts)
    (accepted : readHeader source header = .ok layout) :
    ∃ warnings, readCsv source text = .ok (tableOf layout texts, warnings) := by
  have numbered : Text.numberedLines text = (1, header) :: texts.mapIdx fun index line => (index + 2, line) := by
    rw [Text.numberedLines, lines, List.mapIdx_cons]
  have same := Text.map_snd_numberedLines text
  rw [numbered, lines, List.map_cons, List.cons.injEq] at same
  obtain ⟨table, warnings, read, accounting⟩ := readCsv_accounting numbered accepted
  have tabled := accounting.table
  rw [same.2] at tabled
  exact ⟨warnings, tabled ▸ read⟩

/-- Without a line that is blank or dropped the same table is read. -/
theorem readCsv_without {front line back : String} (whole : Text.WholeLine front line back)
    (lines : Text.numberedLines (front ++ line ++ back) = (1, header) :: rows)
    (accepted : readHeader source header = .ok layout)
    (skipped : Text.allBlank line = true ∨
      ∃ row ∈ rows, isDropped layout rows row = true ∧ row.1 = (Text.lines front).length + 1) :
    ∃ warnings, readCsv source (front ++ back) = .ok (tableOf layout (rows.map Prod.snd), warnings) := by
  obtain ⟨text, below, numbered, behind, blank⟩ := whole.numberedLines_eq
  have sorted := Text.numberedLines_sorted (front ++ line ++ back)
  rw [numbered] at lines sorted
  have before := Text.map_snd_numberedLines front
  cases upTo : Text.numberedLines front with
  | nil =>
    -- The line would be the header, which is not blank and not among the rows.
    rw [upTo, List.nil_append] at lines sorted
    obtain ⟨first, rfl⟩ := List.cons.inj lines
    cases skipped with
    | inl isBlank =>
      have visible := (of_readHeader accepted).1
      rw [← (Prod.mk.inj first).2, blank, isBlank] at visible
      cases visible
    | inr dropped =>
      obtain ⟨row, member, _, number⟩ := dropped
      have later := (List.pairwise_cons.mp sorted).1 row member
      exact absurd later (number ▸ Nat.lt_irrefl _)
  | cons first above =>
    rw [upTo, List.cons_append] at lines sorted
    obtain ⟨rfl, rfl⟩ := List.cons.inj lines
    have rowsSorted := (List.pairwise_cons.mp sorted).2
    have remaining : Text.lines (front ++ back) = header :: (above ++ below).map Prod.snd := by
      rw [whole.lines_append, ← before, upTo, List.map_append, behind]
      rfl
    obtain ⟨warnings, read⟩ := exists_readCsv remaining accepted
    refine ⟨warnings, ?_⟩
    rw [tableOf_without rowsSorted, read]
    cases skipped with
    | inl isBlank => exact .inl (blank.trans isBlank)
    | inr dropped =>
      obtain ⟨row, member, dropped, number⟩ := dropped
      have distinct := nodup_of_pairwise Nat.lt_irrefl (List.pairwise_map.mpr rowsSorted)
      have isLine : row = ((Text.lines front).length + 1, text) :=
        List.inj_on_of_nodup_map distinct member (List.mem_append_right _ List.mem_cons_self) number
      exact .inr (isLine ▸ dropped)

end Texts

/-- Once its header is accepted, a text is read whatever its rows are, and no cell is looked for beyond the end of a row.
There are as many rows that are not blank as records and warnings about dropped rows together: each dropped row has one
such warning with its line number, in ascending order, and the table has the records of the others. A line that is blank
or has such a warning can be taken out of the text, and the table stays the same. -/
theorem readCsv_accounts {source text header : String} {rows : List (Nat × String)} {layout : Layout}
    (lines : Text.numberedLines text = (1, header) :: rows) (accepted : readHeader source header = .ok layout) :
    (∀ row ∈ rows, ∀ cells, Text.Row.split? row.2 = some cells → cells.length = layout.width →
      ∀ position ∈ layout.positions, position < cells.length) ∧
    ∃ table warnings, readCsv source text = .ok (table, warnings) ∧
      (rows.filter fun row => !Text.allBlank row.2).length =
        table.size + (warnings.filter Warning.dropsRow).length ∧
      (warnings.filter Warning.dropsRow).map Warning.line? = (rows.filter (isDropped layout rows)).map (some ·.1) ∧
      ((rows.filter (isDropped layout rows)).map (·.1)).Pairwise (· < ·) ∧
      table.toList.map some = (rows.filter (isKept layout rows)).map (fun row => rowRecord? layout row.2) ∧
      ∀ front line back, text = front ++ line ++ back → Text.WholeLine front line back →
        (Text.allBlank line = true ∨ ∃ warning ∈ warnings, warning.dropsRow = true ∧
          warning.line? = some ((Text.lines front).length + 1)) →
        ∃ warnings', readCsv source (front ++ back) = .ok (table, warnings') := by
  refine ⟨?_, ?_⟩
  · intro row _ cells _ width position member
    exact width ▸ (of_readHeader accepted).2 position member
  · obtain ⟨table, warnings, read, accounting⟩ := readCsv_accounting lines accepted
    have sorted := Text.numberedLines_sorted text
    rw [lines] at sorted
    refine ⟨table, warnings, read, accounting.length_visible, accounting.dropped,
      List.pairwise_map.mpr ((List.pairwise_cons.mp sorted).2.filter _), accounting.kept, ?_⟩
    intro front line back divided whole skipped
    subst divided
    have tabled : table = tableOf layout (rows.map Prod.snd) := accounting.table
    rw [tabled]
    apply readCsv_without whole lines accepted
    cases skipped with
    | inl blank => exact .inl blank
    | inr warned =>
      obtain ⟨warning, member, drops, numbered⟩ := warned
      exact .inr (accounting.isDropped_of_warning member drops numbered)

/-- Behind a row of a file stand a row with two cells, an empty line and another row of the file, which is the only one
with a carriage return: two lines are dropped, and the one with two cells can be taken out. -/
theorem readCsv_accounts_short_row :
    let front := Text.Row.join columns ++ "\n" ++ "core,1,1,2,1,1,0,1,1,2\n"
    let back := "\ncore,9,9,18,1,1,0,9,9,18\r\n"
    let rows := [(2, "core,1,1,2,1,1,0,1,1,2"), (3, "short,row"), (4, ""), (5, "core,9,9,18,1,1,0,9,9,18")]
    Text.numberedLines (front ++ "short,row\n" ++ back) = (1, Text.Row.join columns) :: rows ∧
      readHeader "stats" (Text.Row.join columns) = .ok writtenLayout ∧
      ∃ table warnings, readCsv "stats" (front ++ "short,row\n" ++ back) = .ok (table, warnings) ∧
        3 = table.size + (warnings.filter Warning.dropsRow).length ∧
        ∃ warnings', readCsv "stats" (front ++ back) = .ok (table, warnings') := by
  intro front back rows
  have accepted := readHeader_columns "stats"
  have headed (rest : String) : Text.lines (Text.Row.join columns ++ "\n" ++ rest) =
      Text.Row.join columns :: Text.lines rest :=
    (Text.Row.fitsLine_join (by decide +kernel)).lines_append rest
  have lines : Text.numberedLines (front ++ "short,row\n" ++ back) = (1, Text.Row.join columns) :: rows := by
    have below : Text.lines ("core,1,1,2,1,1,0,1,1,2\n" ++ "short,row\n" ++ back) = rows.map Prod.snd := by
      decide +kernel
    have divided : front ++ "short,row\n" ++ back =
        Text.Row.join columns ++ "\n" ++ ("core,1,1,2,1,1,0,1,1,2\n" ++ "short,row\n" ++ back) := by
      simp only [front, String.append_assoc]
    rw [Text.numberedLines, divided, headed, below]
    rfl
  have number : (Text.lines front).length = 2 := by
    rw [headed]
    decide +kernel
  obtain ⟨_, table, warnings, read, counted, dropped, _, _, removable⟩ := readCsv_accounts lines accepted
  refine ⟨lines, accepted, table, warnings, read, counted, ?_⟩
  apply removable front "short,row\n" back rfl
  · exact ⟨by simp [front], "short,row", by decide, .inl rfl⟩
  · have listed : some 3 ∈ (rows.filter (isDropped writtenLayout rows)).map (some ·.1) :=
      List.mem_map.mpr ⟨(3, "short,row"), List.mem_filter.mpr ⟨by simp [rows], by decide +kernel⟩, rfl⟩
    rw [← dropped] at listed
    obtain ⟨warning, inside, numbered⟩ := List.mem_map.mp listed
    obtain ⟨member, drops⟩ := List.mem_filter.mp inside
    exact .inr ⟨warning, member, drops, by rw [numbered, number]⟩

end StatsTable

end ChangeCoupling
