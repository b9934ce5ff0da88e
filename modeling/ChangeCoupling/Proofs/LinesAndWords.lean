import ChangeCoupling.Text.Blank
import ChangeCoupling.Text.Line
import Mathlib.Data.List.Basic
import Mathlib.Data.List.DropRight

/-! Texts that are put together from words and from lines come apart into them again. What this takes of a word and
of a line is also what every word and every line of a text has. -/

namespace ChangeCoupling.Text

theorem of_mem_splitOnP {p : α → Bool} {items piece : List α} (member : piece ∈ items.splitOnP p) :
    ∀ item ∈ piece, item ∈ items ∧ p item = false := by
  induction items generalizing piece with
  | nil =>
    rw [List.splitOnP_nil, List.mem_singleton] at member
    simp [member]
  | cons first rest ih =>
    have later {piece : List α} (member : piece ∈ rest.splitOnP p) :
        ∀ item ∈ piece, item ∈ first :: rest ∧ p item = false :=
      fun item inside => ⟨List.mem_cons_of_mem _ (ih member item inside).1, (ih member item inside).2⟩
    rw [List.splitOnP_cons_eq_if_modifyHead] at member
    split at member
    next =>
      cases List.mem_cons.mp member with
      | inl empty => simp [empty]
      | inr isLater => exact later isLater
    next keeps =>
      obtain ⟨head, tail, pieces⟩ := List.exists_cons_of_ne_nil (List.splitOnP_ne_nil p rest)
      rw [pieces, List.modifyHead_cons] at member
      cases List.mem_cons.mp member with
      | inl same =>
        subst same
        intro item inside
        cases List.mem_cons.mp inside with
        | inl same => exact ⟨same ▸ List.mem_cons_self, by simpa [same] using keeps⟩
        | inr inHead => exact later (pieces ▸ List.mem_cons_self) item inHead
      | inr isLater => exact later (pieces ▸ List.mem_cons_of_mem _ isLater)

theorem mem_toList_intercalate {separator : String} {parts : List String} {c : Char}
    (member : c ∈ (separator.intercalate parts).toList) : c ∈ separator.toList ∨ ∃ part ∈ parts, c ∈ part.toList := by
  induction parts with
  | nil => simp at member
  | cons part rest ih =>
    cases rest with
    | nil => exact .inr ⟨part, List.mem_cons_self, by simpa using member⟩
    | cons second rest =>
      rw [String.intercalate_cons_cons, String.toList_append, String.toList_append, List.mem_append,
        List.mem_append] at member
      rcases member with (inPart | inSeparator) | later
      · exact .inr ⟨part, List.mem_cons_self, inPart⟩
      · exact .inl inSeparator
      · obtain inSeparator | ⟨other, otherMember, inOther⟩ := ih later
        · exact .inl inSeparator
        · exact .inr ⟨other, List.mem_cons_of_mem _ otherMember, inOther⟩

section Words

/-- The texts that are one word. -/
def IsWord (text : String) : Prop := text ≠ "" ∧ ∀ c ∈ text.toList, isBlank c = false

theorem IsWord.not_mem {word : String} (isWord : IsWord word) {c : Char} (blank : isBlank c = true) : c ∉ word.toList :=
  fun member => Bool.false_ne_true ((isWord.2 c member).symm.trans blank)

theorem wordChars_append_blank (chars rest : List Char) {blank : Char} (isBlank : isBlank blank = true) :
    wordChars (chars ++ blank :: rest) = wordChars chars ++ wordChars rest := by
  simp only [wordChars, List.splitOnP_append_cons chars rest isBlank, List.filter_append]

theorem wordChars_word {word : String} (isWord : IsWord word) : wordChars word.toList = [word.toList] := by
  rw [wordChars, List.splitOnP_eq_singleton isWord.2]
  simp [isWord.1]

theorem isWord_of_mem_words {text word : String} (member : word ∈ words text) : IsWord word := by
  obtain ⟨chars, found, rfl⟩ := List.mem_map.mp member
  obtain ⟨piece, nonempty⟩ := List.mem_filter.mp found
  refine ⟨?_, ?_⟩
  · simpa using nonempty
  · rw [String.toList_ofList]
    exact fun c inside => (of_mem_splitOnP piece c inside).2

/-- Words that are divided by single blanks are read back. -/
theorem words_intercalate {names : List String} (areWords : ∀ name ∈ names, IsWord name) :
    words (" ".intercalate names) = names := by
  have chars : wordChars (" ".intercalate names).toList = names.map String.toList := by
    rw [String.toList_intercalate, show " ".toList = [' '] from rfl]
    induction names with
    | nil => rfl
    | cons name rest ih =>
      have first := wordChars_word (areWords name List.mem_cons_self)
      cases rest with
      | nil => simpa using first
      | cons second rest =>
        have others := ih fun name member => areWords name (List.mem_cons_of_mem _ member)
        simp only [List.map_cons] at others ⊢
        rw [List.intercalate_cons_cons, List.append_assoc, List.singleton_append,
          wordChars_append_blank _ _ (by decide), first, others, List.singleton_append]
  rw [words, chars, List.map_map]
  simp [Function.comp_def]

theorem words_eq_nil_iff {text : String} : words text = [] ↔ allBlank text = true := by
  rw [words, List.map_eq_nil_iff, allBlank]
  induction text.toList with
  | nil => decide
  | cons c rest ih =>
    rw [List.all_cons]
    cases blank : isBlank c with
    | true =>
      rw [Bool.true_and, ← ih]
      exact iff_of_eq (congrArg (· = []) (wordChars_append_blank [] rest blank))
    | false =>
      -- The character belongs to the first piece, which is therefore a word.
      obtain ⟨head, tail, pieces⟩ := List.exists_cons_of_ne_nil (List.splitOnP_ne_nil isBlank rest)
      simp [wordChars, List.splitOnP_cons_eq_if_modifyHead, blank, pieces]

theorem allBlank_eq_false_of_words {text : String} (someWord : words text ≠ []) : allBlank text = false :=
  Bool.eq_false_iff.mpr (mt words_eq_nil_iff.mpr someWord)

end Words

section Trimming

theorem trimChars_eq (chars : List Char) : trimChars chars = (chars.dropWhile isBlank).rdropWhile isBlank := rfl

theorem isInfix_trim (text : String) : (trim text).toList <:+: text.toList := by
  rw [trim, String.toList_ofList, trimChars_eq]
  exact (List.rdropWhile_prefix _ _).isInfix.trans (List.dropWhile_suffix _).isInfix

theorem mem_of_mem_trim {text : String} {c : Char} (member : c ∈ (trim text).toList) : c ∈ text.toList :=
  (isInfix_trim text).subset member

theorem trim_padded {before after : String} (beforeBlank : allBlank before = true) (afterBlank : allBlank after = true)
    (text : String) : trim (before ++ text ++ after) = trim text := by
  simp only [allBlank, List.all_eq_true] at beforeBlank afterBlank
  simp only [trim, String.toList_append, trimChars_eq]
  congr 1
  rw [List.append_assoc, List.dropWhile_append_of_pos beforeBlank, List.dropWhile_append]
  split
  next empty =>
    rw [List.isEmpty_iff.mp empty, List.dropWhile_eq_nil_iff.mpr afterBlank]
  next =>
    have reversed : ∀ c ∈ after.toList.reverse, isBlank c = true := by simpa using afterBlank
    rw [List.rdropWhile, List.reverse_append, List.dropWhile_append_of_pos reversed, List.rdropWhile]

theorem trim_of_allBlank {text : String} (blank : allBlank text = true) : trim text = "" := by
  calc trim text = trim (text ++ "" ++ "") := by simp
    _ = trim "" := trim_padded blank rfl ""
    _ = "" := rfl

theorem trim_trim (text : String) : trim (trim text) = trim text := by
  rw [trim, trim, String.toList_ofList]
  generalize text.toList = chars
  -- Taking blanks off the end leaves the first character where it is.
  have start : (trimChars chars).dropWhile isBlank = trimChars chars := by
    cases trimmed : trimChars chars with
    | nil => rfl
    | cons c rest =>
      obtain ⟨blanks, front⟩ := List.rdropWhile_prefix isBlank (chars.dropWhile isBlank)
      have first := List.head?_dropWhile_not isBlank chars
      rw [← trimChars_eq, trimmed] at front
      rw [← front] at first
      exact List.dropWhile_cons_of_neg (Bool.eq_false_iff.mp first)
  rw [trimChars_eq (trimChars chars), start, trimChars_eq, List.rdropWhile_idempotent]

theorem trim_of_isWord {word : String} (isWord : IsWord word) : trim word = word := by
  have start : word.toList.dropWhile isBlank = word.toList := by
    rw [List.dropWhile_eq_self_iff]
    intro nonempty
    simp [isWord.2 _ (List.getElem_mem nonempty)]
  have final : word.toList.rdropWhile isBlank = word.toList := by
    rw [List.rdropWhile_eq_self_iff]
    intro nonempty
    simp [isWord.2 _ (List.getLast_mem nonempty)]
  rw [trim, trimChars_eq, start, final, String.ofList_toList]

end Trimming

section Lines

/-- What can stand on a line of its own: a line feed would end the line, and a carriage return at its end would be taken
for a part of the line break. -/
structure FitsLine (row : String) : Prop where
  noLineFeed : '\n' ∉ row.toList
  noFinalReturn : row.toList.getLast? ≠ some '\r'

/-- Names that have no blanks share a line. -/
theorem fitsLine_intercalate {names : List String} (areWords : ∀ name ∈ names, IsWord name) :
    FitsLine (" ".intercalate names) := by
  have absent {c : Char} (blank : isBlank c = true) (other : c ≠ ' ') : c ∉ (" ".intercalate names).toList := by
    intro member
    cases mem_toList_intercalate member with
    | inl space => exact other (List.mem_singleton.mp space)
    | inr inName =>
      obtain ⟨name, nameMember, inside⟩ := inName
      simp [(areWords name nameMember).2 c inside] at blank
  exact ⟨absent (by decide) (by decide),
    fun final => absent (by decide) (by decide) (List.mem_of_getLast? final)⟩

theorem lineChars_append {row : List Char} (noLineFeed : '\n' ∉ row) (rest : List Char) :
    lineChars (row ++ '\n' :: rest) = dropReturn row :: lineChars rest := by
  unfold lineChars
  rw [List.splitOn_append_cons_self_of_not_mem noLineFeed]
  obtain ⟨piece, pieces, split⟩ := List.exists_cons_of_ne_nil (List.splitOn_ne_nil '\n' rest)
  rw [split, closeLines]
  simp

theorem lines_append_lineFeed (row rest : String) (noLineFeed : '\n' ∉ row.toList) :
    lines (row ++ "\n" ++ rest) = String.ofList (dropReturn row.toList) :: lines rest := by
  have chars : (row ++ "\n" ++ rest).toList = row.toList ++ '\n' :: rest.toList := by simp
  rw [lines, chars, lineChars_append noLineFeed]
  rfl

theorem FitsLine.lines_append {row : String} (fits : FitsLine row) (rest : String) :
    lines (row ++ "\n" ++ rest) = row :: lines rest := by
  rw [lines_append_lineFeed row rest fits.noLineFeed, dropReturn, if_neg fits.noFinalReturn, String.ofList_toList]

/-- Rows that are written one a line are read back. -/
theorem lines_unlines {rows : List String} (fit : ∀ row ∈ rows, FitsLine row) : lines (unlines rows) = rows := by
  induction rows with
  | nil => rfl
  | cons row rest ih =>
    have unlined : unlines (row :: rest) = row ++ "\n" ++ unlines rest := by
      rw [← String.toList_inj]
      simp [unlines]
    rw [unlined, (fit row List.mem_cons_self).lines_append, ih fun row member => fit row (List.mem_cons_of_mem _ member)]

theorem lineChars_last {row : List Char} (noLineFeed : '\n' ∉ row) :
    lineChars row = if row.isEmpty then [] else [row] := by
  rw [lineChars, List.splitOn_eq_singleton noLineFeed, closeLines]

/-- A text is a row without a line feed, or such a row with a line feed and then a text. -/
theorem lines_induction {motive : List Char → Prop} (last : ∀ row, '\n' ∉ row → motive row)
    (step : ∀ row rest, '\n' ∉ row → motive rest → motive (row ++ '\n' :: rest)) (chars : List Char) :
    motive chars := by
  by_cases member : '\n' ∈ chars
  · obtain ⟨row, rest, split, noLineFeed⟩ := List.eq_append_cons_of_mem member
    subst split
    exact step row rest noLineFeed (lines_induction last step rest)
  · exact last chars member
termination_by chars.length
decreasing_by simp [split]; omega

theorem lineFeed_not_mem_lines {text line : String} (member : line ∈ lines text) : '\n' ∉ line.toList := by
  obtain ⟨chars, found, rfl⟩ := List.mem_map.mp member
  rw [String.toList_ofList]
  generalize text.toList = whole at found
  induction whole using lines_induction with
  | last row noLineFeed =>
    rw [lineChars_last noLineFeed] at found
    split at found
    · cases found
    · rw [List.mem_singleton.mp found]
      exact noLineFeed
  | step row rest noLineFeed ih =>
    rw [lineChars_append noLineFeed] at found
    cases List.mem_cons.mp found with
    | inl first =>
      rw [first, dropReturn]
      split
      · exact fun inside => noLineFeed ((List.dropLast_sublist row).subset inside)
      · exact noLineFeed
    | inr later => exact ih later

theorem lineFeed_not_mem_numberedLines {text : String} {row : Nat × String} (member : row ∈ numberedLines text) :
    '\n' ∉ row.2.toList := by
  obtain ⟨index, inside, rfl⟩ := List.mem_mapIdx.mp member
  exact lineFeed_not_mem_lines (List.getElem_mem inside)

/-- There are as many lines as line feeds, and one more if something follows the last of them. -/
theorem length_lines (text : String) :
    (lines text).length =
      text.toList.count '\n' + if text.toList.getLast?.all (· == '\n') then 0 else 1 := by
  rw [lines, List.length_map]
  generalize text.toList = chars
  induction chars using lines_induction with
  | last row noLineFeed =>
    rw [lineChars_last noLineFeed, List.count_eq_zero.mpr noLineFeed]
    cases final : row.getLast? with
    | none => simp [List.getLast?_eq_none_iff.mp final]
    | some c =>
      have member := List.mem_of_getLast? final
      have other : c ≠ '\n' := fun same => noLineFeed (same ▸ member)
      simp [List.ne_nil_of_mem member, other]
  | step row rest noLineFeed ih =>
    rw [lineChars_append noLineFeed, List.length_cons, ih, List.count_append, List.count_eq_zero.mpr noLineFeed,
      List.count_cons_self, List.getLast?_append, List.getLast?_cons]
    cases rest.getLast? with
    | none => simp
    | some c => simp [Nat.add_right_comm]

/-- Behind the end of a line another text can be put. -/
theorem lineChars_append_ended {front : List Char} (ended : front.getLast?.all (· == '\n') = true) (rest : List Char) :
    lineChars (front ++ rest) = lineChars front ++ lineChars rest := by
  induction front using lines_induction with
  | last row noLineFeed =>
    cases final : row.getLast? with
    | none =>
      rw [List.getLast?_eq_none_iff.mp final]
      rfl
    | some c =>
      have lineFeed : c = '\n' := by simpa [final] using ended
      exact absurd (lineFeed ▸ List.mem_of_getLast? final) noLineFeed
  | step row more noLineFeed ih =>
    have endedLater : more.getLast?.all (· == '\n') = true := by
      cases final : more.getLast? with
      | none => rfl
      | some c => simpa [List.getLast?_append, List.getLast?_cons, final] using ended
    rw [List.append_assoc, List.cons_append, lineChars_append noLineFeed, lineChars_append noLineFeed, ih endedLater,
      List.cons_append]

theorem all_dropReturn (row : List Char) : (dropReturn row).all isBlank = row.all isBlank := by
  unfold dropReturn
  split
  next final =>
    obtain ⟨start, rfl⟩ := List.getLast?_eq_some_iff.mp final
    simp [show isBlank '\r' = true by decide]
  next => rfl

theorem map_snd_numberedLines (text : String) : (numberedLines text).map Prod.snd = lines text := by
  apply List.ext_getElem
  · simp [numberedLines]
  · simp [numberedLines]

theorem numberedLines_sorted (text : String) : (numberedLines text).Pairwise (·.1 < ·.1) := by
  rw [List.pairwise_iff_getElem]
  intro first second _ _ before
  simpa [numberedLines] using before

theorem filterMap_numberedLines (text : String) (p : String → Bool) (f : Nat → α) :
    (numberedLines text).filterMap (fun row => if p row.2 then some (f row.1) else none) =
      ((lines text).findIdxs p 1).map f := by
  rw [numberedLines, List.mapIdx_eq_zipIdx_map, List.findIdxs_start, List.findIdxs_eq_filterMap_zipIdx,
    List.filterMap_map, List.map_map, List.map_filterMap]
  apply List.filterMap_congr
  intro row _
  cases accepted : p row.1 <;> simp [accepted]

/-- One line of a text between what is before it and what is behind it. The line break belongs to the line, which may
lack it only at the end of the text. -/
structure WholeLine (front line back : String) : Prop where
  starts : front.toList.getLast?.all (· == '\n') = true
  ends : ∃ row : String, '\n' ∉ row.toList ∧ (line = row ++ "\n" ∨ line = row ∧ row ≠ "" ∧ back = "")

namespace WholeLine

variable {front line back : String}

theorem lines_append (whole : WholeLine front line back) (rest : String) :
    lines (front ++ rest) = lines front ++ lines rest := by
  rw [lines, String.toList_append, lineChars_append_ended whole.starts, List.map_append]
  rfl

theorem lines_eq (whole : WholeLine front line back) :
    ∃ row, lines (front ++ line ++ back) = lines front ++ row :: lines back ∧ allBlank row = allBlank line := by
  rw [String.append_assoc, whole.lines_append]
  obtain ⟨row, noLineFeed, rfl | ⟨rfl, nonempty, rfl⟩⟩ := whole.ends
  · refine ⟨String.ofList (dropReturn row.toList), ?_, ?_⟩
    · rw [lines_append_lineFeed row back noLineFeed]
    · simp [allBlank, all_dropReturn, show isBlank '\n' = true by decide]
  · refine ⟨line, ?_, rfl⟩
    have only : lines line = [line] := by
      rw [lines, lineChars_last noLineFeed, if_neg (by simpa using nonempty)]
      simp
    rw [String.append_empty, only]
    rfl

theorem numberedLines_eq (whole : WholeLine front line back) :
    ∃ row below, numberedLines (front ++ line ++ back) =
        numberedLines front ++ ((lines front).length + 1, row) :: below ∧
      below.map Prod.snd = lines back ∧ allBlank row = allBlank line := by
  obtain ⟨row, divided, blank⟩ := whole.lines_eq
  refine ⟨row, (lines back).mapIdx fun index line => (index + 1 + (lines front).length + 1, line), ?_, ?_, blank⟩
  · rw [numberedLines, divided, List.mapIdx_append, List.mapIdx_cons, Nat.zero_add]
    rfl
  · apply List.ext_getElem
    · simp
    · simp

end WholeLine

end Lines

end ChangeCoupling.Text
