import ChangeCoupling.Number.Double

/-! Warnings about input that is left out or corrected. None of them stops the work: a reader returns what it
could use together with one warning for each thing that it could not. -/

namespace ChangeCoupling

inductive Warning where
  | unterminatedQuote (source : String) (line : Nat)
  | cellCount (source : String) (line expected found : Nat)
  | noFileName (source : String) (line : Nat)
  | badCounts (source : String) (line : Nat)
  | staleAverage (source : String) (line : Nat) (path column stored : String) (expected : Double)
  | duplicateFile (source : String) (line : Nat) (path : String)
  | badBandRow (band : String) (line : Nat)
  | blankRule (path : String) (line : Nat)
  | blankTruth (source : String) (line : Nat)
  | unscoredRule (antecedent reason : String)
  deriving DecidableEq

namespace Warning

def message : Warning → String
  | unterminatedQuote .. => "skipping row with unterminated quote"
  | cellCount .. => "skipping row with wrong cell count"
  | noFileName .. => "skipping row without file name"
  | badCounts .. => "skipping row with unparsable counts"
  | staleAverage .. => "stored average disagrees with totals; using recomputed value"
  | duplicateFile .. => "duplicate file row ignored"
  | badBandRow .. => "skipping malformed band row"
  | blankRule .. => "skipping blank rule line"
  | blankTruth .. => "skipping blank ground-truth line"
  | unscoredRule .. => "rule not scored"

/-- A detail of a warning. -/
inductive Field where
  | count (value : Nat)
  | number (value : Double)
  | text (value : String)

/-- The details of a warning under their names. -/
def fields : Warning → List (String × Field)
  | unterminatedQuote source line => [("source", .text source), ("line", .count line)]
  | cellCount source line expected found =>
    [("source", .text source), ("line", .count line), ("expected", .count expected), ("found", .count found)]
  | noFileName source line => [("source", .text source), ("line", .count line)]
  | badCounts source line => [("source", .text source), ("line", .count line)]
  | staleAverage source line path column stored expected =>
    [("source", .text source), ("line", .count line), ("path", .text path), ("column", .text column),
      ("stored", .text stored), ("expected", .number expected)]
  | duplicateFile source line path => [("source", .text source), ("line", .count line), ("path", .text path)]
  | badBandRow band line => [("band", .text band), ("line", .count line)]
  | blankRule path line => [("path", .text path), ("line", .count line)]
  | blankTruth source line => [("source", .text source), ("line", .count line)]
  | unscoredRule antecedent reason => [("antecedent", .text antecedent), ("error", .text reason)]

/-- Warnings about a row of the statistics table that is left out. A wrong average is only corrected. -/
def dropsRow : Warning → Bool
  | unterminatedQuote .. | cellCount .. | noFileName .. | badCounts .. | duplicateFile .. => true
  | _ => false

end Warning

end ChangeCoupling
