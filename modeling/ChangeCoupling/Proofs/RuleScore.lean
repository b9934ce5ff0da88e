import ChangeCoupling.Proofs.OverlapShortcut
import ChangeCoupling.Transaction
import Mathlib.Data.Finset.Card

/-! The score of a rule is that of the first pair of greatest precision, among all pairs of a subset of its consequent
and a reference of its antecedent, however long the consequent is. -/

namespace ChangeCoupling

namespace GroundTruth

theorem references_add (truth : GroundTruth) (known antecedent : String) (consequent : List String) :
    (truth.add known consequent).references antecedent =
      truth.references antecedent ++ if known = antecedent then [consequent.eraseDups] else [] := by
  simp only [references, add, Std.HashMap.getD_insert, beq_iff_eq]
  split
  next same => simp [same]
  next different => simp

theorem references_ofRules (rules : List (String × List String)) (antecedent : String) :
    (ofRules rules).references antecedent =
      (rules.filter fun known => known.1 = antecedent).map fun known => known.2.eraseDups := by
  have onTop (truth : GroundTruth) :
      (rules.foldl (fun truth rule => truth.add rule.1 rule.2) truth).references antecedent =
        truth.references antecedent ++
          (rules.filter fun known => known.1 = antecedent).map fun known => known.2.eraseDups := by
    induction rules generalizing truth with
    | nil => simp
    | cons known rest ih =>
      rw [List.foldl_cons, ih, references_add, List.append_assoc, List.filter_cons]
      by_cases same : known.1 = antecedent <;> simp [same]
  have none : ({} : GroundTruth).references antecedent = [] := by simp [references]
  rw [ofRules, onTop, none, List.nil_append]

end GroundTruth

namespace Scoring

def filesAt (consequent : List String) (chosen : List Nat) : Finset String :=
  (chosen.filterMap (consequent[·]?)).toFinset

/-- All pairs of a subset of a consequent and a reference. The larger subsets come first, those of one size go by the
positions of their files, and for each subset the references go in their order. -/
def pairs (consequent : List String) (references : List (Finset String)) : List (Finset String × Finset String) :=
  (subsets consequent.length).flatMap fun chosen =>
    references.map fun reference => (filesAt consequent chosen, reference)

/-- A part of a whole as a double, and zero if the whole is nothing. -/
def doubleShare (part whole : Nat) : Double := if whole = 0 then Double.zero else Double.nearest part whole

/-- A pair has the greater precision, by some division, if a greater share of its subset is in its reference. -/
def MorePrecise [LT α] (share : Nat → Nat → α) (first second : Finset String × Finset String) : Prop :=
  share (second.1 ∩ second.2).card second.1.card < share (first.1 ∩ first.2).card first.1.card

def matchOf (pair : Finset String × Finset String) : Overlap := ⟨(pair.1 ∩ pair.2).card, pair.1.card, pair.2.card⟩

def referenceSets (rules : List (String × List String)) (antecedent : String) : List (Finset String) :=
  (rules.filter fun known => known.1 = antecedent).map fun known => known.2.toFinset

theorem matchOf_filesAt {consequent : List String} (nodup : consequent.Nodup) {chosen : List Nat}
    (within : chosen.Sublist (List.range consequent.length)) {reference : Reference}
    (referenceNodup : reference.Nodup) :
    matchOf (filesAt consequent chosen, reference.toFinset) = Overlap.ofPositions consequent chosen reference := by
  have known : ∀ position ∈ chosen, position < consequent.length :=
    fun position member => List.mem_range.mp (within.subset member)
  have filesNodup : (chosen.filterMap (consequent[·]?)).Nodup := by
    apply List.Nodup.filterMap _ (List.nodup_range.sublist within)
    intro first second file isFirst isSecond
    obtain ⟨inside, _⟩ := List.getElem?_eq_some_iff.mp isFirst
    exact (List.getElem?_inj inside nodup).mp (isFirst.trans isSecond.symm)
  have matched : (filesAt consequent chosen ∩ reference.toFinset).card =
      chosen.countP ((Overlap.positions consequent reference).contains ·) := by
    have common : filesAt consequent chosen ∩ reference.toFinset =
        ((chosen.filterMap (consequent[·]?)).filter (reference.contains ·)).toFinset := by
      ext file
      simp [filesAt]
    rw [common, List.toFinset_card_of_nodup (filesNodup.filter _), ← List.countP_eq_length_filter,
      List.countP_filterMap]
    apply List.countP_congr
    intro position member
    simp [Overlap.mem_positions, known position member]
  have proposed : (filesAt consequent chosen).card = chosen.length := by
    rw [filesAt, List.toFinset_card_of_nodup filesNodup, List.length_filterMap_eq_countP, List.countP_eq_length]
    intro position member
    simp [known position member]
  simp only [matchOf, Overlap.ofPositions, matched, proposed, List.toFinset_card_of_nodup referenceNodup]

theorem map_matchOf_pairs {consequent : List String} (nodup : consequent.Nodup) {references : List Reference}
    (referencesNodup : ∀ reference ∈ references, reference.Nodup) :
    (pairs consequent (references.map List.toFinset)).map matchOf = visits consequent references := by
  rw [pairs, visits, List.map_flatMap]
  apply List.flatMap_congr
  intro chosen member
  rw [List.map_map, List.map_map]
  apply List.map_congr_left
  intro reference isReference
  exact matchOf_filesAt nodup ((mem_subsets _ _).mp member) (referencesNodup reference isReference)

/-- One and the same pair is the first of greatest precision by every division that obeys the laws of shares, and the
score is made of its shares. -/
theorem exists_bestPair {consequent : List String} (nodup : consequent.Nodup) {references : List Reference}
    (nonempty : references ≠ []) (referencesNodup : ∀ reference ∈ references, reference.Nodup) :
    ∃ subset reference,
      (∀ {α : Type} [LT α] {share : Nat → Nat → α} {zero one : α}, ShareLaws consequent.length share zero one →
        FirstBest (MorePrecise share) (pairs consequent (references.map List.toFinset)) (subset, reference)) ∧
      (best consequent references).score =
        { precision := doubleShare (subset ∩ reference).card subset.card
          recalled := doubleShare (subset ∩ reference).card reference.card } := by
  obtain ⟨before, winner, after, split, wins, same⟩ := exists_winner consequent nonempty
  rw [← map_matchOf_pairs nodup referencesNodup] at split
  obtain ⟨early, rest, paired, rfl, fromWinner⟩ := List.map_eq_append_iff.mp split
  obtain ⟨⟨subset, reference⟩, late, rfl, rfl, rfl⟩ := List.map_eq_cons_iff.mp fromWinner
  refine ⟨subset, reference, fun laws => ⟨early, late, paired, ?_, ?_⟩, (score_best consequent references).trans same⟩
  · intro pair member
    exact (wins.best laws).1 (matchOf pair) (List.mem_map_of_mem member)
  · intro pair member
    exact (wins.best laws).2 (matchOf pair) (List.mem_map_of_mem member)

theorem scoreRule_eq_ok_iff {truth : GroundTruth} {rule : Rule} {score : Score} : scoreRule truth rule = .ok score ↔
    truth.references rule.antecedent ≠ [] ∧
      (best rule.consequent (truth.references rule.antecedent)).score = score := by
  unfold scoreRule
  cases truth.references rule.antecedent with
  | nil => simp
  | cons reference others => simp

section
variable (rules : List (String × List String)) (antecedent : String)

theorem map_toFinset_references :
    ((GroundTruth.ofRules rules).references antecedent).map List.toFinset = referenceSets rules antecedent := by
  rw [GroundTruth.references_ofRules, List.map_map]
  apply List.map_congr_left
  intro known _
  ext file
  simp [List.mem_eraseDups]

theorem references_eq_nil_iff :
    (GroundTruth.ofRules rules).references antecedent = [] ↔ ∀ known ∈ rules, known.1 ≠ antecedent := by
  simp [GroundTruth.references_ofRules]

theorem references_nodup :
    ∀ reference ∈ (GroundTruth.ofRules rules).references antecedent, reference.Nodup := by
  intro reference member
  rw [GroundTruth.references_ofRules] at member
  obtain ⟨known, _, rfl⟩ := List.mem_map.mp member
  exact nodup_eraseDups known.2

theorem scoreRule_eq_ok (nonempty : (GroundTruth.ofRules rules).references antecedent ≠ []) (consequent : List String) :
    scoreRule (GroundTruth.ofRules rules) (Rule.make antecedent consequent) =
      .ok (best consequent.eraseDups ((GroundTruth.ofRules rules).references antecedent)).score :=
  scoreRule_eq_ok_iff.mpr ⟨nonempty, rfl⟩

/-- There is no score if the ground truth does not know the antecedent, and then the failure names it. Otherwise the score
is that of the first pair of greatest precision: its precision is the share of the subset that is in the reference, its
recall the share of the reference that is in the subset, and the share of nothing is zero. It is the same pair whether
precisions are compared as fractions or as doubles, if doubles tell a share apart from nothing and from everything. -/
theorem scoreRule_bestScore (consequent : List String) :
    (scoreRule (GroundTruth.ofRules rules) (Rule.make antecedent consequent) = .error (.noGroundTruth antecedent) ↔
        ∀ known ∈ rules, known.1 ≠ antecedent) ∧
      ((∃ known ∈ rules, known.1 = antecedent) →
        ∃ subset reference,
          FirstBest (MorePrecise exactShare)
            (pairs (Rule.make antecedent consequent).consequent (referenceSets rules antecedent)) (subset, reference) ∧
          ((Rule.make antecedent consequent).consequent.length ≤ enumerationLimit ∨
              ProperShares (Rule.make antecedent consequent).consequent.length →
            FirstBest (MorePrecise doubleShare)
              (pairs (Rule.make antecedent consequent).consequent (referenceSets rules antecedent)) (subset, reference)) ∧
          scoreRule (GroundTruth.ofRules rules) (Rule.make antecedent consequent) = .ok
            { precision := doubleShare (subset ∩ reference).card subset.card
              recalled := doubleShare (subset ∩ reference).card reference.card }) := by
  by_cases none : (GroundTruth.ofRules rules).references antecedent = []
  · have unknown := (references_eq_nil_iff rules antecedent).mp none
    refine ⟨⟨fun _ => unknown, fun _ => ?_⟩, fun ⟨known, member, same⟩ => absurd same (unknown known member)⟩
    simp only [scoreRule, Rule.make, none]
  · have scored := scoreRule_eq_ok rules antecedent none consequent
    obtain ⟨subset, reference, firstBest, score⟩ :=
      exists_bestPair (nodup_eraseDups consequent) none (references_nodup rules antecedent)
    rw [map_toFinset_references] at firstBest
    refine ⟨⟨fun failed => ?_, fun unknown => ?_⟩, fun _ => ⟨subset, reference, firstBest (ShareLaws.exact _),
      fun known => ?_, score ▸ scored⟩⟩
    · cases scored.symm.trans failed
    · exact absurd ((references_eq_nil_iff rules antecedent).mpr unknown) none
    · exact firstBest (ShareLaws.reported (properShares_of_short known))

end

/-- Two references of one antecedent; a file that the consequent repeats counts once. The first subset that is all right
is the one of `b` and `c`, which are two of the three files of the second reference. -/
theorem scoreRule_bestScore_repeated :
    ∃ subset reference,
      FirstBest (MorePrecise doubleShare) (pairs ["b", "c", "d"] [{"c", "d"}, {"b", "e", "c"}]) (subset, reference) ∧
      scoreRule (GroundTruth.ofRules [("a", ["c", "d"]), ("b", ["a"]), ("a", ["b", "e", "c"])])
          (Rule.make "a" ["b", "c", "b", "d"]) = .ok
        { precision := doubleShare (subset ∩ reference).card subset.card
          recalled := doubleShare (subset ∩ reference).card reference.card } ∧
      doubleShare (subset ∩ reference).card subset.card = Double.ofNat 1 ∧
      doubleShare (subset ∩ reference).card reference.card = Double.nearest 2 3 := by
  have known : ∃ rule ∈ [("a", ["c", "d"]), ("b", ["a"]), ("a", ["b", "e", "c"])], rule.1 = "a" := by decide
  obtain ⟨subset, reference, _, reported, scored⟩ := (scoreRule_bestScore
    [("a", ["c", "d"]), ("b", ["a"]), ("a", ["b", "e", "c"])] "a" ["b", "c", "b", "d"]).2 known
  have references : (GroundTruth.ofRules [("a", ["c", "d"]), ("b", ["a"]), ("a", ["b", "e", "c"])]).references "a" =
      [["c", "d"], ["b", "e", "c"]] := by
    rw [GroundTruth.references_ofRules]
    decide
  have value := scoreRule_eq_ok [("a", ["c", "d"]), ("b", ["a"]), ("a", ["b", "e", "c"])] "a" (by simp [references])
    ["b", "c", "b", "d"]
  have evaluated : (best ["b", "c", "b", "d"].eraseDups [["c", "d"], ["b", "e", "c"]]).score =
      ⟨Double.ofNat 1, Double.nearest 2 3⟩ := by decide +kernel
  rw [references, evaluated, scored, Except.ok.injEq, Score.mk.injEq] at value
  exact ⟨subset, reference, reported (.inl (by decide)), scored, value⟩

end Scoring

end ChangeCoupling
