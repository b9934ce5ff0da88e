import ChangeCoupling.Curve
import ChangeCoupling.Proofs.DoubleOrder
import ChangeCoupling.Proofs.NumberText
import ChangeCoupling.Proofs.RowQuoting

/-! The points of a curve are the scores of the rules, sorted by the place of their recall in the total order of doubles.
Equal recalls stay in the order of the rules, and the table has the points line by line. -/

namespace ChangeCoupling.Curve

def leads (first second : Score) : Bool := first.recalled.rank ≤ second.recalled.rank

theorem leads_trans (first second third : Score) (before : leads first second = true)
    (after : leads second third = true) : leads first third = true := by
  simp only [leads, decide_eq_true_eq] at before after ⊢
  exact before.trans after

theorem leads_total (first second : Score) : (leads first second || leads second first) = true := by
  simp only [leads, Bool.or_eq_true, decide_eq_true_eq]
  exact Nat.le_total _ _

section
variable (title : String) (evaluation : Evaluation)

theorem points_sorted : (ofEvaluation title evaluation).points.Pairwise fun first second =>
    first.recalled = second.recalled ∨ Double.Before first.recalled second.recalled := by
  apply (List.pairwise_mergeSort leads_trans leads_total evaluation.scores).imp
  intro first second ordered
  exact Double.eq_or_before (of_decide_eq_true ordered)

theorem points_perm : (ofEvaluation title evaluation).points.Perm evaluation.scores :=
  List.mergeSort_perm _ _

theorem filter_points (bits : UInt64) : (ofEvaluation title evaluation).points.filter (·.recalled.bits = bits) =
    evaluation.scores.filter (·.recalled.bits = bits) := by
  -- Equal recalls are in order as they stand, and a stable sort keeps what is in order.
  have tied : (evaluation.scores.filter (·.recalled.bits = bits)).Pairwise (leads · ·) := by
    apply List.pairwise_of_forall_mem_list
    intro first member second member'
    have same := of_decide_eq_true (List.mem_filter.mp member).2
    have same' := of_decide_eq_true (List.mem_filter.mp member').2
    have recalled : first.recalled = second.recalled := congrArg Double.mk (same.trans same'.symm)
    simp [leads, recalled]
  have kept := (List.sublist_mergeSort leads_trans leads_total tied List.filter_sublist).filter (·.recalled.bits = bits)
  simp only [List.filter_filter, Bool.and_self] at kept
  have length := ((points_perm title evaluation).filter (·.recalled.bits = bits)).length_eq
  exact (kept.eq_of_length length.symm).symm

end

def pointText (point : Score) : String :=
  Number.Cell.write point.recalled ++ "," ++ Number.Cell.write point.precision

theorem lines_toCsv (curve : Curve) :
    Text.lines curve.toCsv = "Recall,Precision" :: curve.points.map pointText := by
  have plain (point : Score) : ∀ cell ∈ [Number.Cell.write point.recalled, Number.Cell.write point.precision],
      Text.Row.needsQuotes cell.toList = false := by
    simp [Number.Cell.needsQuotes_write]
  have joined (point : Score) : Text.Row.join [Number.Cell.write point.recalled, Number.Cell.write point.precision] =
      pointText point := by
    rw [Text.Row.join_of_plain (plain point)]
    rfl
  have fits (point : Score) : Text.FitsLine (pointText point) := by
    rw [← joined]
    exact Text.Row.fitsLine_join fun cell member => Text.Row.lineFeed_not_mem_of_plain (plain point cell member)
  have header : Text.Row.join columns = "Recall,Precision" := by decide +kernel
  simp only [toCsv, joined, header]
  apply Text.lines_unlines
  intro line member
  cases member with
  | head => exact header ▸ Text.Row.fitsLine_join (by decide)
  | tail _ member =>
    obtain ⟨point, _, rfl⟩ := List.mem_map.mp member
    exact fits point

/-- The points are the scores of the rules, none lost and none twice. Their recalls go by the total order of doubles, and
points with the same recall to the bit keep the order of their rules. The table has a header and a line for each point,
in this order. -/
theorem ofEvaluation_stable (title : String) (evaluation : Evaluation) :
    let curve := ofEvaluation title evaluation
    let scores := evaluation.results.filterMap (·.score?)
    curve.points.Perm scores ∧
      (curve.points.Pairwise fun first second =>
        first.recalled = second.recalled ∨ Double.Before first.recalled second.recalled) ∧
      (∀ bits, curve.points.filter (·.recalled.bits = bits) = scores.filter (·.recalled.bits = bits)) ∧
      Text.lines curve.toCsv = "Recall,Precision" :: curve.points.map pointText :=
  ⟨points_perm title evaluation, points_sorted title evaluation, filter_points title evaluation, lines_toCsv _⟩

end ChangeCoupling.Curve
