import ChangeCoupling.Proofs.LinesAndWords
import ChangeCoupling.Proofs.RuleScore
import Mathlib.Algebra.BigOperators.Group.Finset.Basic

/-! The index of the ground truth against its text. What the index gives for an antecedent is what going through all
lines again would give, and its counts are those of the lines. -/

namespace ChangeCoupling.GroundTruth

/-- The references for an antecedent, looked up in the text: the other words of each line that starts with it. -/
def rescan (text antecedent : String) : List (Finset String) :=
  ((Text.lines text).filter fun line => (Text.words line).head? = some antecedent).map
    fun line => (Text.words line).tail.toFinset

def antecedentsOf (text : String) : Finset String :=
  ((Text.lines text).filterMap fun line => (Text.words line).head?).toFinset

section
variable {rules : List (String × List String)} {truth : GroundTruth}

theorem toFinset_concat (rules : List (String × List String)) (rule : String × List String) :
    ((rules ++ [rule]).map Prod.fst).toFinset = insert rule.1 (rules.map Prod.fst).toFinset := by
  ext antecedent
  simp

/-- An index that counts the rules which were added, and their antecedents. -/
structure Counts (rules : List (String × List String)) (truth : GroundTruth) : Prop where
  size : truth.size = rules.length
  known : ∀ antecedent, antecedent ∈ truth.index ↔ antecedent ∈ (rules.map Prod.fst).toFinset
  antecedents : truth.index.size = (rules.map Prod.fst).toFinset.card

theorem Counts.add (counts : Counts rules truth) (rule : String × List String) :
    Counts (rules ++ [rule]) (truth.add rule.1 rule.2) where
  size := by simp [GroundTruth.add, counts.size]
  known := by
    intro antecedent
    rw [toFinset_concat, Finset.mem_insert, ← counts.known antecedent, GroundTruth.add, Std.HashMap.mem_insert,
      beq_iff_eq, eq_comm]
  antecedents := by
    rw [toFinset_concat, Finset.card_insert_eq_ite, GroundTruth.add, Std.HashMap.size_insert, counts.antecedents]
    simp only [counts.known]

theorem counts_ofRules (rules : List (String × List String)) : Counts rules (ofRules rules) := by
  induction rules using List.reverseRecOn with
  | nil => exact ⟨rfl, by simp [ofRules], rfl⟩
  | append_singleton rules rule ih =>
    rw [ofRules, List.foldl_append]
    exact ih.add rule

theorem length_references (rules : List (String × List String)) (antecedent : String) :
    ((ofRules rules).references antecedent).length = (rules.map Prod.fst).count antecedent := by
  rw [references_ofRules, List.length_map, List.count, List.countP_map, List.countP_eq_length_filter]
  rfl

end

theorem isNone_ofLine? (line : String) : (ofLine? line).isNone = Text.allBlank line := by
  rw [Bool.eq_iff_iff, ← Text.words_eq_nil_iff, ofLine?]
  cases Text.words line <;> simp

theorem map_fst_ofLine? (line : String) : (ofLine? line).map Prod.fst = (Text.words line).head? := by
  rw [ofLine?]
  cases Text.words line <;> rfl

theorem read_eq (source text : String) : read source text =
    (ofRules ((Text.lines text).filterMap ofLine?),
      ((Text.lines text).findIdxs Text.allBlank 1).map (Warning.blankTruth source)) := by
  rw [← Text.filterMap_numberedLines, ← Text.map_snd_numberedLines]
  simp only [read, List.filterMap_map, ← isNone_ofLine?]
  rfl

theorem referenceSets_lines (lines : List String) (antecedent : String) :
    Scoring.referenceSets (lines.filterMap ofLine?) antecedent =
      (lines.filter fun line => (Text.words line).head? = some antecedent).map
        fun line => (Text.words line).tail.toFinset := by
  induction lines with
  | nil => rfl
  | cons line rest ih =>
    simp only [Scoring.referenceSets] at ih ⊢
    cases words : Text.words line with
    | nil => simpa [ofLine?, words] using ih
    | cons first others =>
      by_cases same : first = antecedent <;> simpa [ofLine?, words, same] using ih

theorem map_toFinset_read (source text antecedent : String) :
    ((read source text).1.references antecedent).map List.toFinset = rescan text antecedent := by
  rw [read_eq, Scoring.map_toFinset_references, referenceSets_lines, rescan]

theorem nodup_of_mem_read {source text antecedent : String} {reference : Reference}
    (member : reference ∈ (read source text).1.references antecedent) : reference.Nodup := by
  rw [read_eq] at member
  exact Scoring.references_nodup _ antecedent reference member

theorem map_length_read (source text antecedent : String) :
    ((read source text).1.references antecedent).map List.length = (rescan text antecedent).map Finset.card := by
  rw [← map_toFinset_read source text antecedent, List.map_map]
  apply List.map_congr_left
  intro reference member
  exact (List.toFinset_card_of_nodup (nodup_of_mem_read member)).symm

/-- The index answers as a search through the text does: the references of an antecedent stand in the order of their
lines and hold each file once. There are as many rules as lines that are not blank, each belongs to one of the different
antecedents, and a warning gives the number of each blank line. -/
theorem read_rescan (source text : String) :
    let truth := (read source text).1
    (∀ antecedent, (truth.references antecedent).map List.toFinset = rescan text antecedent ∧
        (truth.references antecedent).map List.length = (rescan text antecedent).map Finset.card) ∧
      truth.size = (Text.lines text).countP (!Text.allBlank ·) ∧
      truth.antecedents = (antecedentsOf text).card ∧
      ∑ antecedent ∈ antecedentsOf text, (truth.references antecedent).length = truth.size ∧
      (read source text).2 = ((Text.lines text).findIdxs Text.allBlank 1).map (Warning.blankTruth source) := by
  refine ⟨fun antecedent => ⟨map_toFinset_read source text antecedent, map_length_read source text antecedent⟩, ?_⟩
  rw [read_eq]
  have counts := counts_ofRules ((Text.lines text).filterMap ofLine?)
  have antecedents : ((Text.lines text).filterMap ofLine?).map Prod.fst =
      (Text.lines text).filterMap fun line => (Text.words line).head? := by
    rw [List.map_filterMap]
    simp only [map_fst_ofLine?]
  refine ⟨?_, ?_, ?_, rfl⟩
  · rw [counts.size, List.length_filterMap_eq_countP]
    simp only [← Option.not_isNone, isNone_ofLine?]
  · rw [GroundTruth.antecedents, counts.antecedents, antecedents, antecedentsOf]
  · simp only [length_references, antecedents, antecedentsOf, counts.size]
    rw [List.sum_toFinset_count_eq_length, ← antecedents, List.length_map]

end ChangeCoupling.GroundTruth
