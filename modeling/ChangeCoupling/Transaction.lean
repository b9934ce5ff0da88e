import ChangeCoupling.Text.Blank
import ChangeCoupling.Text.Line

/-! Transactions: the sets of files that were changed together. A log holds one transaction a line, oldest
first, its files divided by blanks. A blank line is an empty transaction, which counts like any other. -/

namespace ChangeCoupling

theorem nodup_eraseDups [BEq α] [LawfulBEq α] (items : List α) : items.eraseDups.Nodup := by
  cases items with
  | nil => simp
  | cons item rest =>
    rw [List.eraseDups_cons, List.nodup_cons]
    exact ⟨by simp [List.mem_eraseDups], nodup_eraseDups _⟩
termination_by items.length
decreasing_by exact Nat.lt_succ_of_le (List.length_filter_le _ _)

/-- The files of one change, each of them once. -/
structure Transaction where
  files : List String
  distinct : files.Nodup
  deriving DecidableEq

namespace Transaction

/-- The transaction of a list of files; of files that are listed repeatedly the first mention counts. -/
def ofFiles (files : List String) : Transaction := ⟨files.eraseDups, nodup_eraseDups files⟩

def size (transaction : Transaction) : Nat := transaction.files.length

def contains (transaction : Transaction) (file : String) : Bool := transaction.files.contains file

/-- A transaction as a line of a log. -/
def line (transaction : Transaction) : String := " ".intercalate transaction.files

def ofLine (line : String) : Transaction := ofFiles (Text.words line)

/-- The transactions of a log. -/
def readLog (text : String) : List Transaction := (Text.lines text).map ofLine

/-- The log of a list of transactions. -/
def writeLog (transactions : List Transaction) : String := Text.unlines (transactions.map line)

end Transaction

end ChangeCoupling
