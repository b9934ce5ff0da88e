import ChangeCoupling.Evaluation
import ChangeCoupling.Number.Cell
import ChangeCoupling.Text.Align
import ChangeCoupling.Text.Row

/-! The precision-recall curve: the scores of the rules by increasing recall. -/

namespace ChangeCoupling

structure Curve where
  title : String
  points : List Score

namespace Curve

/-- The curve of an evaluation. Recall is ordered by the total order of doubles, and scores with the same recall
stay in the order of their rules. -/
def ofEvaluation (title : String) (evaluation : Evaluation) : Curve :=
  ⟨title, evaluation.scores.mergeSort fun first second => first.recalled.rank ≤ second.recalled.rank⟩

def columns : List String := ["Recall", "Precision"]

def toCsv (curve : Curve) : String :=
  Text.unlines (Text.Row.join columns :: curve.points.map fun point =>
    Text.Row.join [Number.Cell.write point.recalled, Number.Cell.write point.precision])

def rowText (cells : List String) : String := " ".intercalate (cells.map (Text.alignRight 10))

/-- The title and then a table in which the numbers have three places. -/
def text (curve : Curve) : String :=
  Text.unlines (curve.title :: rowText columns :: curve.points.map fun point =>
    rowText [Number.fixed 3 point.recalled, Number.fixed 3 point.precision])

end Curve

end ChangeCoupling
