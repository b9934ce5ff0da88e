import ChangeCoupling.Proofs.LinesAndWords
import ChangeCoupling.Proofs.Lists
import ChangeCoupling.Transaction

/-! Which logs survive being written and read. A log carries exactly the files whose paths are words: a path with a
blank in it comes back as several files and an empty path not at all. Whatever has been read from a text is kept. -/

namespace ChangeCoupling.Transaction

theorem isWord_of_mem_ofLine {line file : String} (member : file ∈ (ofLine line).files) : Text.IsWord file := by
  unfold ofLine ofFiles at member
  exact Text.isWord_of_mem_words (List.mem_eraseDups.mp member)

theorem isWord_of_mem_readLog {text : String} {transaction : Transaction} (member : transaction ∈ readLog text) :
    ∀ file ∈ transaction.files, Text.IsWord file := by
  intro file inside
  obtain ⟨line, _, rfl⟩ := List.mem_map.mp member
  exact isWord_of_mem_ofLine inside

theorem ofLine_line {transaction : Transaction} (areWords : ∀ file ∈ transaction.files, Text.IsWord file) :
    ofLine transaction.line = transaction := by
  cases transaction with
  | mk files distinct =>
    simp only [ofLine, line, ofFiles, Text.words_intercalate areWords, eraseDups_of_nodup distinct]

theorem readLog_writeLog_of_words {log : List Transaction}
    (areWords : ∀ transaction ∈ log, ∀ file ∈ transaction.files, Text.IsWord file) : readLog (writeLog log) = log := by
  have fit : ∀ row ∈ log.map line, Text.FitsLine row := by
    intro row member
    obtain ⟨transaction, inside, rfl⟩ := List.mem_map.mp member
    exact Text.fitsLine_intercalate (areWords transaction inside)
  rw [readLog, writeLog, Text.lines_unlines fit, List.map_map]
  conv_rhs => rw [← List.map_id log]
  apply List.map_congr_left
  intro transaction inside
  exact ofLine_line (areWords transaction inside)

/-- A log is read back exactly if every path in it is a word. What was read from any text at all is read back, and it
has one transaction for each line of the text, blank lines included: one for every line feed and one for what follows
the last of them. -/
theorem readLog_writeLog :
    (∀ log : List Transaction, readLog (writeLog log) = log ↔
      ∀ transaction ∈ log, ∀ file ∈ transaction.files, Text.IsWord file) ∧
    ∀ text : String, readLog (writeLog (readLog text)) = readLog text ∧
      (readLog text).length = (Text.lines text).length ∧
      (Text.lines text).length =
        text.toList.count '\n' + if text.toList.getLast?.all (· == '\n') then 0 else 1 := by
  refine ⟨fun log => ⟨?_, readLog_writeLog_of_words⟩, fun text => ⟨?_, ?_, Text.length_lines text⟩⟩
  · intro same transaction member
    rw [← same] at member
    exact isWord_of_mem_readLog member
  · exact readLog_writeLog_of_words fun _ => isWord_of_mem_readLog
  · exact List.length_map ofLine

end ChangeCoupling.Transaction
