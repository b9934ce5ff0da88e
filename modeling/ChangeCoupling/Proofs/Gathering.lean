import ChangeCoupling.Mining.Gather
import Mathlib.Algebra.GroupWithZero.Nat

/-! Partial counts can be brought together in any way. What is seen of the merged result is the sum of what is seen
of the parts, so neither the order nor the bracketing matters, nor do counts of nothing in between. -/

namespace ChangeCoupling.Mining

namespace Gather

/-- A number that merging adds up. Some results may have to be left out of account, such as vectors of the wrong
length. -/
structure Additive (valid : α → Prop) (view : α → Nat) (empty : α) (merge : α → α → α) : Prop where
  empty_valid : valid empty
  merge_valid : ∀ first second, valid first → valid second → valid (merge first second)
  view_empty : view empty = 0
  view_merge : ∀ first second, valid first → valid second → view (merge first second) = view first + view second

variable {valid : α → Prop} {view : α → Nat} {empty : α} {merge : α → α → α}

private theorem run_additive (additive : Additive valid view empty merge) (result : Nat → α)
    (results : ∀ number, valid (result number)) (gather : Gather) :
    valid (gather.run empty merge result) ∧
      view (gather.run empty merge result) = (gather.parts.map fun number => view (result number)).sum := by
  induction gather with
  | nothing => exact ⟨additive.empty_valid, additive.view_empty⟩
  | part number => exact ⟨results number, by simp [run, parts]⟩
  | both first second firstRun secondRun =>
    obtain ⟨firstValid, firstView⟩ := firstRun
    obtain ⟨secondValid, secondView⟩ := secondRun
    refine ⟨additive.merge_valid _ _ firstValid secondValid, ?_⟩
    simp only [run, parts, List.map_append, List.sum_append]
    rw [additive.view_merge _ _ firstValid secondValid, firstView, secondView]

/-- Each result of a list is brought in once, whatever the way. -/
theorem runList_additive (additive : Additive valid view empty merge) (results : List α)
    (validResults : ∀ result ∈ results, valid result) (gather : Gather) (covers : gather.Covers results.length) :
    valid (gather.runList empty merge results) ∧
      view (gather.runList empty merge results) = (results.map view).sum := by
  have each : ∀ number, valid (results.getD number empty) := by
    intro number
    by_cases inside : number < results.length
    · simpa [inside] using validResults _ (List.getElem_mem inside)
    · simpa [List.getD_eq_getElem?_getD, List.getElem?_eq_none (Nat.le_of_not_lt inside)] using additive.empty_valid
  obtain ⟨runValid, runView⟩ := run_additive additive (results.getD · empty) each gather
  refine ⟨runValid, runView.trans ?_⟩
  have inOrder : (List.range results.length).map (fun number => view (results.getD number empty)) =
      results.map view := by
    apply List.ext_getElem (by simp)
    intro position first second
    have inside : position < results.length := by simpa using second
    simp [inside]
  rw [← inOrder]
  exact (covers.map _).sum_nat

private theorem parts_inOrder (numbers : List Nat) (gathered : Gather) :
    (numbers.foldl (fun gathered number => both gathered (part number)) gathered).parts =
      gathered.parts ++ numbers := by
  induction numbers generalizing gathered with
  | nil => simp
  | cons number rest ih => simp [ih, parts]

theorem inOrder_covers (count : Nat) : (inOrder count).Covers count := by
  unfold Covers inOrder
  rw [parts_inOrder]
  exact List.Perm.refl _

end Gather

/-- A plan that brings in every part once, at every level and for any number of parts. -/
def Plan.Complete (plan : Plan) : Prop := ∀ size count, (plan size count).Covers count

theorem flatten_chunks {size : Nat} (positive : 0 < size) (items : List α) : (chunks size items).flatten = items := by
  have upTo : ∀ limit (items : List α), items.length ≤ limit → (chunksUpTo size limit items).flatten = items := by
    intro limit
    induction limit with
    | zero =>
      intro items bounded
      simp [chunksUpTo, List.eq_nil_of_length_eq_zero (Nat.le_zero.mp bounded)]
    | succ limit ih =>
      intro items bounded
      cases items with
      | nil => simp [chunksUpTo]
      | cons item rest =>
        have shorter : ((item :: rest).drop size).length ≤ limit := by
          simp only [List.length_drop, List.length_cons] at bounded ⊢
          omega
        simp [chunksUpTo, ih _ shorter]
  exact upTo items.length items (Nat.le_refl _)

theorem sum_countP_chunks {size : Nat} (positive : 0 < size) (items : List α) (test : α → Bool) :
    ((chunks size items).map (List.countP test)).sum = items.countP test := by
  rw [← List.countP_flatten, flatten_chunks positive]

end ChangeCoupling.Mining
