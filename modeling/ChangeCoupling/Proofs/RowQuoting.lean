import ChangeCoupling.Proofs.LinesAndWords
import ChangeCoupling.Text.Row

/-! Rows of cells. Whatever the cells hold, a row comes apart into the cells that it was joined from, and reading a row
makes up no characters. -/

namespace ChangeCoupling.Text.Row

/-- Reading up to the closing quote undoes the doubling of quotes. -/
theorem splitFrom_doubleQuotes (cell taken rest : List Char) (closed : rest.head? ≠ some '"') :
    splitFrom true taken (doubleQuotes cell ++ '"' :: rest) = splitFrom false (cell.reverse ++ taken) rest := by
  induction cell generalizing taken with
  | nil =>
    cases rest with
    | nil => rfl
    | cons c rest =>
      have other : c ≠ '"' := fun same => closed (congrArg some same)
      simp [doubleQuotes, splitFrom, other]
  | cons c cell ih =>
    rw [List.reverse_cons, List.append_assoc, List.singleton_append, ← ih]
    by_cases quote : c = '"'
    · simp [doubleQuotes, quote, splitFrom]
    · simp [doubleQuotes, quote, splitFrom]

theorem splitFrom_plain (cell taken rest : List Char) (plain : needsQuotes cell = false) :
    splitFrom false taken (cell ++ rest) = splitFrom false (cell.reverse ++ taken) rest := by
  induction cell generalizing taken with
  | nil => rfl
  | cons c cell ih =>
    rw [needsQuotes, List.any_cons, Bool.or_eq_false_iff] at plain
    have ordinary : (c ≠ ',' ∧ c ≠ '"') ∧ c ≠ '\n' ∧ c ≠ '\r' := by simpa [and_assoc] using plain.1
    rw [List.reverse_cons, List.append_assoc, List.singleton_append, ← ih (c :: taken) plain.2]
    simp [splitFrom, ordinary.1]

/-- A written cell is read up to the comma behind it. -/
theorem splitFrom_quoteChars (cell rest : List Char) (closed : rest.head? ≠ some '"') :
    splitFrom false [] (quoteChars cell ++ rest) = splitFrom false cell.reverse rest := by
  unfold quoteChars
  split
  next =>
    have inside := splitFrom_doubleQuotes cell [] rest closed
    simpa [splitFrom] using inside
  next plain =>
    simpa using splitFrom_plain cell [] rest (Bool.eq_false_iff.mpr plain)

theorem toList_join_cons_cons (first second : String) (rest : List String) :
    (join (first :: second :: rest)).toList = quoteChars first.toList ++ ',' :: (join (second :: rest)).toList := by
  simp [join, quote, String.intercalate_cons_cons]

/-- Every row but the empty one is read back, whatever its cells hold. -/
theorem split?_join {cells : List String} (nonempty : cells ≠ []) : split? (join cells) = some cells := by
  have chars : splitFrom false [] (join cells).toList = some (cells.map String.toList) := by
    induction cells with
    | nil => exact absurd rfl nonempty
    | cons cell rest ih =>
      cases rest with
      | nil =>
        have read := splitFrom_quoteChars cell.toList [] (by simp)
        simpa [join, quote, splitFrom] using read
      | cons second rest =>
        rw [toList_join_cons_cons, splitFrom_quoteChars _ _ (by simp), splitFrom, ih (List.cons_ne_nil second rest),
          List.reverse_reverse, Option.map_some]
        rfl
  rw [split?, chars, Option.map_some, List.map_map]
  simp [Function.comp_def]

theorem mem_of_mem_splitFrom {quoted : Bool} {taken chars : List Char} {cells : List (List Char)}
    (read : splitFrom quoted taken chars = some cells) {cell : List Char} (member : cell ∈ cells) {c : Char}
    (inside : c ∈ cell) : c ∈ taken ∨ c ∈ chars := by
  fun_induction splitFrom quoted taken chars generalizing cells cell
  case case1 => cases read
  case case2 =>
    cases read
    rw [List.mem_singleton.mp member] at inside
    exact .inl (List.mem_reverse.mp inside)
  case case8 taken rest ih =>
    obtain ⟨others, readOthers, rfl⟩ := Option.map_eq_some_iff.mp read
    cases List.mem_cons.mp member with
    | inl first =>
      rw [first] at inside
      exact .inl (List.mem_reverse.mp inside)
    | inr later =>
      have := ih readOthers later inside
      simp_all
  -- Everywhere else the next character joins the current cell or is a quote that is left out.
  all_goals grind

theorem mem_of_mem_split? {line : String} {cells : List String} (read : split? line = some cells) {cell : String}
    (member : cell ∈ cells) : cell.toList ⊆ line.toList := by
  obtain ⟨chars, readChars, rfl⟩ := Option.map_eq_some_iff.mp read
  obtain ⟨cellChars, inside, rfl⟩ := List.mem_map.mp member
  intro c
  rw [String.toList_ofList]
  intro inCell
  simpa using mem_of_mem_splitFrom readChars inside inCell

theorem mem_quoteChars {cell : List Char} {c : Char} (member : c ∈ quoteChars cell) : c = '"' ∨ c ∈ cell := by
  unfold quoteChars at member
  split at member
  next =>
    simp only [List.mem_cons, List.mem_append, doubleQuotes, List.mem_flatMap, List.not_mem_nil, or_false] at member
    grind
  next => exact .inr member

theorem lineFeed_not_mem_of_plain {cell : List Char} (plain : needsQuotes cell = false) : '\n' ∉ cell := by
  rw [needsQuotes, List.any_eq_false] at plain
  exact fun inside => plain '\n' inside (by decide)

theorem quote_of_plain {cell : String} (plain : needsQuotes cell.toList = false) : quote cell = cell := by
  rw [quote, quoteChars, if_neg (Bool.eq_false_iff.mp plain), String.ofList_toList]

theorem join_of_plain {cells : List String} (plain : ∀ cell ∈ cells, needsQuotes cell.toList = false) :
    join cells = ",".intercalate cells := by
  have same : cells.map quote = cells.map id := List.map_congr_left fun cell member => quote_of_plain (plain cell member)
  rw [join, same, List.map_id]

theorem allBlank_join {cells : List String} (several : 2 ≤ cells.length) : allBlank (join cells) = false := by
  match cells, several with
  | first :: second :: rest, _ =>
    rw [allBlank, toList_join_cons_cons, List.all_append, List.all_cons]
    simp [show isBlank ',' = false by decide]

theorem head?_join_ne {c : Char} (noQuote : c ≠ '"') (noComma : c ≠ ',') {cells : List String}
    (other : ∀ cell ∈ cells, cell.toList.head? ≠ some c) : (join cells).toList.head? ≠ some c := by
  have starts (cell rest : List Char) (other : cell.head? ≠ some c) (others : rest.head? ≠ some c) :
      (quoteChars cell ++ rest).head? ≠ some c := by
    unfold quoteChars
    split
    next => simpa using noQuote.symm
    next =>
      cases cell with
      | nil => exact others
      | cons d cell => exact other
  match cells with
  | [] => simp [join]
  | [cell] => simpa [join, quote] using starts cell.toList [] (other cell List.mem_cons_self) (by simp)
  | first :: second :: rest =>
    rw [toList_join_cons_cons]
    exact starts _ _ (other first List.mem_cons_self) (by simpa using noComma.symm)

/-- A carriage return is only written between quotes. -/
theorem getLast?_join_ne_return (cells : List String) : (join cells).toList.getLast? ≠ some '\r' := by
  have ends (cell : List Char) : (quoteChars cell).getLast? ≠ some '\r' := by
    unfold quoteChars
    split
    next =>
      rw [List.getLast?_concat]
      decide
    next plain =>
      intro final
      apply plain
      rw [needsQuotes, List.any_eq_true]
      exact ⟨'\r', List.mem_of_getLast? final, by decide⟩
  induction cells with
  | nil => simp [join]
  | cons first rest ih =>
    cases rest with
    | nil => simpa [join, quote] using ends first.toList
    | cons second rest =>
      rw [toList_join_cons_cons, List.getLast?_append, List.getLast?_cons]
      cases final : (join (second :: rest)).toList.getLast? with
      | none => simp
      | some c => simpa [final] using ih

theorem fitsLine_join {cells : List String} (oneLine : ∀ cell ∈ cells, '\n' ∉ cell.toList) : FitsLine (join cells) := by
  refine ⟨?_, getLast?_join_ne_return cells⟩
  intro inside
  cases mem_toList_intercalate inside with
  | inl comma => exact absurd comma (by decide)
  | inr inCell =>
    obtain ⟨quoted, member, inQuoted⟩ := inCell
    obtain ⟨cell, cellMember, rfl⟩ := List.mem_map.mp member
    rw [quote, String.toList_ofList] at inQuoted
    cases mem_quoteChars inQuoted with
    | inl isQuote => exact absurd isQuote (by decide)
    | inr inCell => exact oneLine cell cellMember inCell

/-- Rows that are written one a line are numbered in their order. -/
theorem numberedLines_join {rows : List (List String)} (oneLine : ∀ row ∈ rows, ∀ cell ∈ row, '\n' ∉ cell.toList) :
    numberedLines (unlines (rows.map join)) = (rows.zipIdx 1).map fun entry => (entry.2, join entry.1) := by
  have fit : ∀ line ∈ rows.map join, FitsLine line := by
    intro line member
    obtain ⟨row, inside, rfl⟩ := List.mem_map.mp member
    exact fitsLine_join (oneLine row inside)
  rw [numberedLines, lines_unlines fit]
  apply List.ext_getElem
  · simp
  · intro index _ _
    simp [Nat.add_comm]

/-- Where nothing is quoted, the cells are the pieces between the commas. -/
theorem join_split?_unquoted {line : String} (unquoted : '"' ∉ line.toList) (noLineFeed : '\n' ∉ line.toList)
    (noReturn : '\r' ∉ line.toList) : ∃ cells, split? line = some cells ∧ join cells = line := by
  let cells := (line.toList.splitOn ',').map String.ofList
  have plain : ∀ cell ∈ cells, needsQuotes cell.toList = false := by
    intro cell member
    obtain ⟨piece, isPiece, rfl⟩ := List.mem_map.mp member
    rw [List.splitOn_eq_splitOnP] at isPiece
    rw [String.toList_ofList, needsQuotes, List.any_eq_false]
    intro c inside special
    obtain ⟨inLine, noComma⟩ := of_mem_splitOnP isPiece c inside
    simp only [noComma, Bool.false_or, Bool.or_eq_true, beq_iff_eq] at special
    rcases special with (rfl | rfl) | rfl
    · exact unquoted inLine
    · exact noLineFeed inLine
    · exact noReturn inLine
  have whole : join cells = line := by
    rw [join_of_plain plain, ← String.toList_inj, String.toList_intercalate]
    simp [cells, Function.comp_def, List.intercalate_splitOn]
  have nonempty : cells ≠ [] := by simp [cells, List.splitOn_ne_nil]
  exact ⟨cells, whole ▸ split?_join nonempty, whole⟩

/-- Nothing is lost in a row: every row but the empty one is read back, so that no two lists of cells have the same row,
and a line without quotes and line breaks is the row of the cells that are read from it. -/
theorem quoting_lossless :
    (∀ cells : List String, cells ≠ [] → split? (join cells) = some cells) ∧
    (∀ cells cells' : List String, cells ≠ [] → cells' ≠ [] → join cells = join cells' → cells = cells') ∧
    ∀ line : String, '"' ∉ line.toList → '\n' ∉ line.toList → '\r' ∉ line.toList →
      ∃ cells, split? line = some cells ∧ join cells = line := by
  refine ⟨fun _ => split?_join, ?_, fun _ => join_split?_unquoted⟩
  intro cells cells' nonempty nonempty' same
  have read := split?_join nonempty
  rw [same, split?_join nonempty', Option.some.injEq] at read
  exact read.symm

/-- Cells that are empty or hold nothing but quotes, commas and line breaks, and a line of empty cells. -/
theorem quoting_lossless_awkward :
    ["", "\"", "\"\"", ",", "\r\n", ""] ≠ [] ∧
      split? (join ["", "\"", "\"\"", ",", "\r\n", ""]) = some ["", "\"", "\"\"", ",", "\r\n", ""] ∧
      ∃ cells, split? ",a,," = some cells ∧ join cells = ",a,," := by
  have nonempty : ["", "\"", "\"\"", ",", "\r\n", ""] ≠ [] := by simp
  obtain ⟨reads, _, lines⟩ := quoting_lossless
  exact ⟨nonempty, reads _ nonempty, lines ",a,," (by decide) (by decide) (by decide)⟩

end ChangeCoupling.Text.Row
