import ChangeCoupling.Proofs.PairSearch

/-! The shortcut for long consequents. The reference whose overlap comes first in the order of the subsets gives the
first complete match that the search visits, so that both ways of scoring agree. -/

namespace ChangeCoupling.Scoring

open Mining (combinations mem_combinations combinations_sorted)

/-- The order of the subsets: the larger one comes first, and of two of the same size the lexicographic first one. -/
def Precedes (first second : List Nat) : Prop :=
  second.length < first.length ∨ first.length = second.length ∧ first < second

namespace Precedes

theorem asymm {first second : List Nat} (before : Precedes first second) : ¬ Precedes second first := by
  rintro (larger' | ⟨same', less'⟩) <;> rcases before with larger | ⟨same, less⟩
  · omega
  · omega
  · omega
  · exact List.lt_asymm less less'

theorem irrefl (positions : List Nat) : ¬ Precedes positions positions :=
  fun before => before.asymm before

/-- What contains an early subset is early itself. -/
theorem of_sublist {first whole second : List Nat} (before : Precedes first second) (within : first.Sublist whole) :
    Precedes whole second := by
  rcases Nat.lt_or_eq_of_le within.length_le with shorter | same
  · left
    rcases before with larger | ⟨same, _⟩ <;> omega
  · rwa [← within.eq_of_length same]

end Precedes

theorem mem_subsets (n : Nat) (chosen : List Nat) : chosen ∈ subsets n ↔ chosen.Sublist (List.range n) := by
  simp only [subsets, List.mem_flatMap, List.mem_reverse, List.mem_range, mem_combinations]
  constructor
  · rintro ⟨_, _, within, _⟩
    exact within
  · intro within
    have length := within.length_le
    rw [List.length_range] at length
    exact ⟨chosen.length, by omega, within, rfl⟩

theorem subsets_sorted (n : Nat) : (subsets n).Pairwise Precedes := by
  rw [subsets, List.pairwise_flatMap]
  constructor
  · intro size _
    apply (combinations_sorted size (List.range n) List.pairwise_lt_range).imp_of_mem
    intro first second firstMember secondMember less
    rw [mem_combinations] at firstMember secondMember
    exact .inr ⟨firstMember.2.trans secondMember.2.symm, less⟩
  · rw [List.pairwise_reverse]
    apply List.pairwise_lt_range.imp
    intro size size' less first firstMember second secondMember
    rw [mem_combinations] at firstMember secondMember
    exact .inl (by omega)

theorem foldl_firstPositions (first : List Nat × Nat) (others : List (List Nat × Nat)) :
    FirstBest (fun first second => first.1 < second.1) (first :: others) (others.foldl firstPositions first) := by
  induction others generalizing first with
  | nil => exact ⟨[], [], rfl, by simp, by simp⟩
  | cons other rest ih =>
    rw [List.foldl_cons, firstPositions]
    split
    next less =>
      have notAfter := (ih other).not_better (fun _ _ => List.lt_asymm) other List.mem_cons_self
      exact (ih other).cons (List.lt_of_le_of_lt (List.not_lt.mp notAfter) less)
    next notLess =>
      apply (ih first).insert notLess
      intro lessFirst
      by_contra notLessOther
      exact notLess (List.lt_of_le_of_lt (List.not_lt.mp notLessOther) lessFirst)

theorem firstBest_of_longest {overlaps : List (List Nat × Nat)} {largest : Nat}
    (atMost : ∀ overlap ∈ overlaps, overlap.1.length ≤ largest) {first : List Nat × Nat}
    {others : List (List Nat × Nat)}
    (longest : overlaps.filter (fun overlap => overlap.1.length == largest) = first :: others) :
    FirstBest (fun first second => Precedes first.1 second.1) overlaps (others.foldl firstPositions first) ∧
      (others.foldl firstPositions first).1.length = largest := by
  have length : ∀ overlap ∈ first :: others, overlap.1.length = largest := by
    intro overlap member
    rw [← longest, List.mem_filter, beq_iff_eq] at member
    exact member.2
  have firstBest := foldl_firstPositions first others
  have winnerLength := length _ firstBest.mem
  refine ⟨?_, winnerLength⟩
  have preceding : FirstBest (fun first second => Precedes first.1 second.1) (first :: others)
      (others.foldl firstPositions first) := by
    apply firstBest.congr
    intro overlap member overlap' member'
    simp [Precedes, length overlap member, length overlap' member']
  rw [← longest] at preceding
  apply preceding.of_filter
  intro overlap member shorter
  have less : overlap.1.length < largest := Nat.lt_of_le_of_ne (atMost overlap member) (by simpa using shorter)
  have before : Precedes (others.foldl firstPositions first).1 overlap.1 := .inl (by omega)
  exact ⟨before, before.asymm⟩

variable (consequent : List String)

theorem exists_bestByOverlap {references : List Reference} (nonempty : references ≠ []) :
    ∃ reference, FirstBest (fun first second =>
        Precedes (Overlap.positions consequent first) (Overlap.positions consequent second)) references reference ∧
      bestByOverlap consequent references =
        let overlap := Overlap.positions consequent reference
        if overlap.length = 0 then ⟨0, consequent.length, 0⟩
        else ⟨overlap.length, overlap.length, reference.length⟩ := by
  unfold bestByOverlap
  dsimp only
  generalize mapped : (references.map fun reference =>
    (Overlap.positions consequent reference, reference.length)) = overlaps
  obtain ⟨atMost, _, reached⟩ := foldl_max_spec (fun overlap : List Nat × Nat => overlap.1.length) overlaps 0
  generalize overlaps.foldl (fun size overlap => max size overlap.1.length) 0 = largest at atMost reached ⊢
  split
  next none =>
    have shorter : ∀ overlap ∈ overlaps, overlap.1.length < largest := by
      intro overlap member
      have different := List.filter_eq_nil_iff.mp none overlap member
      exact Nat.lt_of_le_of_ne (atMost overlap member) (by simpa using different)
    obtain ⟨overlap, member⟩ : ∃ overlap, overlap ∈ overlaps :=
      List.exists_mem_of_ne_nil overlaps (by simpa [← mapped] using nonempty)
    rcases reached with rfl | ⟨longest, inside, length⟩
    · exact absurd (shorter overlap member) (Nat.not_lt_zero _)
    · exact absurd length (Nat.ne_of_lt (shorter longest inside))
  next first others longest =>
    obtain ⟨firstBest, length⟩ := firstBest_of_longest atMost longest
    rw [← mapped] at firstBest
    obtain ⟨reference, same, firstReference⟩ := firstBest.of_map
    refine ⟨reference, firstReference, ?_⟩
    rw [← same] at length ⊢
    rw [← length]

theorem complete_ofPositions_iff {chosen : List Nat} (increasing : chosen.Pairwise (· < ·)) (reference : Reference) :
    (Overlap.ofPositions consequent chosen reference).Complete ↔
      chosen ≠ [] ∧ chosen.Sublist (Overlap.positions consequent reference) := by
  rw [sublist_iff_subset increasing (Overlap.positions_increasing consequent reference)]
  simp only [Overlap.Complete, Overlap.ofPositions, List.countP_eq_length, List.contains_iff_mem]
  constructor
  · rintro ⟨positive, within⟩
    refine ⟨?_, within⟩
    rintro rfl
    exact absurd positive (by simp)
  · rintro ⟨nonempty, within⟩
    refine ⟨?_, within⟩
    obtain ⟨position, member⟩ := List.exists_mem_of_ne_nil chosen nonempty
    exact List.countP_pos_iff.mpr ⟨position, member, by simpa using within member⟩

theorem mem_visits {references : List Reference} {overlap : Overlap} :
    overlap ∈ visits consequent references ↔ ∃ chosen ∈ subsets consequent.length,
      ∃ reference ∈ references, Overlap.ofPositions consequent chosen reference = overlap := by
  simp only [visits, List.mem_flatMap, List.mem_map]

/-- Nothing that is visited before the match of the overlap that comes first is complete. -/
private theorem visits_split {references : List Reference} {reference : Reference}
    (firstBest : FirstBest (fun first second =>
      Precedes (Overlap.positions consequent first) (Overlap.positions consequent second)) references reference) :
    ∃ before after, visits consequent references = before ++
        Overlap.ofPositions consequent (Overlap.positions consequent reference) reference :: after ∧
      ∀ overlap ∈ before, ¬ overlap.Complete := by
  have notBetter := firstBest.not_better fun _ _ => Precedes.asymm
  obtain ⟨earlier, later, rfl, worse, _⟩ := firstBest
  dsimp only at notBetter worse
  generalize chosen_eq : Overlap.positions consequent reference = chosen at notBetter worse ⊢
  have within : chosen.Sublist (List.range consequent.length) :=
    chosen_eq ▸ Overlap.positions_sublist consequent reference
  obtain ⟨larger, smaller, subsets_eq⟩ := List.append_of_mem ((mem_subsets consequent.length chosen).mpr within)
  have sorted := subsets_sorted consequent.length
  rw [subsets_eq, List.pairwise_append] at sorted
  refine ⟨larger.flatMap (fun chosen => (earlier ++ reference :: later).map (Overlap.ofPositions consequent chosen)) ++
    earlier.map (Overlap.ofPositions consequent chosen), later.map (Overlap.ofPositions consequent chosen) ++
    smaller.flatMap (fun chosen => (earlier ++ reference :: later).map (Overlap.ofPositions consequent chosen)), ?_, ?_⟩
  · simp [visits, subsets_eq]
  · intro overlap member
    rcases List.mem_append.mp member with early | early
    · obtain ⟨other, inLarger, inside⟩ := List.mem_flatMap.mp early
      obtain ⟨candidate, isReference, rfl⟩ := List.mem_map.mp inside
      have otherWithin : other.Sublist (List.range consequent.length) := by
        rw [← mem_subsets, subsets_eq]
        exact List.mem_append_left _ inLarger
      rw [complete_ofPositions_iff consequent (List.pairwise_lt_range.sublist otherWithin)]
      rintro ⟨_, overlaps⟩
      have before : Precedes other chosen := sorted.2.2 other inLarger chosen List.mem_cons_self
      exact notBetter candidate isReference (before.of_sublist overlaps)
    · obtain ⟨candidate, isReference, rfl⟩ := List.mem_map.mp early
      rw [complete_ofPositions_iff consequent (List.pairwise_lt_range.sublist within)]
      rintro ⟨_, overlaps⟩
      exact Precedes.irrefl _ ((worse candidate isReference).of_sublist overlaps)

private theorem visits_valid {references : List Reference} {overlap : Overlap}
    (member : overlap ∈ visits consequent references) :
    overlap.matched ≤ overlap.proposed ∧ overlap.proposed ≤ consequent.length := by
  obtain ⟨chosen, isSubset, reference, _, rfl⟩ := (mem_visits consequent).mp member
  have length := ((mem_subsets _ _).mp isSubset).length_le
  exact ⟨List.countP_le_length, by simpa [Overlap.ofPositions] using length⟩

private theorem exists_winner_of_noOverlap {references : List Reference} (nonempty : references ≠ [])
    (noOverlap : ∀ reference ∈ references, Overlap.positions consequent reference = []) :
    ∃ winner after, visits consequent references = winner :: after ∧
      ∀ overlap ∈ winner :: after, overlap.matched = 0 := by
  have visitsSome : visits consequent references ≠ [] := by
    obtain ⟨reference, isReference⟩ := List.exists_mem_of_ne_nil references nonempty
    apply List.ne_nil_of_mem
    exact (mem_visits consequent).mpr ⟨[], (mem_subsets _ _).mpr (List.nil_sublist _), reference, isReference, rfl⟩
  obtain ⟨winner, after, split⟩ := List.exists_cons_of_ne_nil visitsSome
  refine ⟨winner, after, split, ?_⟩
  rw [← split]
  intro overlap member
  obtain ⟨chosen, _, reference, isReference, rfl⟩ := (mem_visits consequent).mp member
  simp [Overlap.ofPositions, noOverlap reference isReference]

/-- Both ways of scoring go by the same match among those that the search visits. -/
theorem exists_winner {references : List Reference} (nonempty : references ≠ []) :
    ∃ before winner after, visits consequent references = before ++ winner :: after ∧
      Wins consequent.length before winner after ∧ (bestByOverlap consequent references).score = winner.score := by
  have valid (overlap) (member : overlap ∈ visits consequent references) := visits_valid consequent member
  obtain ⟨reference, firstBest, value⟩ := exists_bestByOverlap consequent nonempty
  by_cases none : Overlap.positions consequent reference = []
  · have noOverlap : ∀ other ∈ references, Overlap.positions consequent other = [] := by
      intro other member
      have notBetter := firstBest.not_better (fun _ _ => Precedes.asymm) other member
      rw [none] at notBetter
      by_contra some
      exact notBetter (.inl (List.length_pos_iff.mpr some))
    obtain ⟨winner, after, split, empty⟩ := exists_winner_of_noOverlap consequent nonempty noOverlap
    rw [split] at valid ⊢
    refine ⟨[], winner, after, rfl, ⟨fun overlap member => (valid overlap member).1,
      fun overlap member => (valid overlap member).2, .inr ⟨rfl, empty⟩⟩, ?_⟩
    simp only [value, none, List.length_nil, if_true, Overlap.score, empty winner List.mem_cons_self, ratio_zero]
  · obtain ⟨before, after, split, incomplete⟩ := visits_split consequent firstBest
    have complete : (Overlap.ofPositions consequent (Overlap.positions consequent reference) reference).Complete :=
      (complete_ofPositions_iff consequent (Overlap.positions_increasing consequent reference) reference).mpr
        ⟨none, List.Sublist.refl _⟩
    rw [split] at valid ⊢
    refine ⟨before, _, after, rfl, ⟨fun overlap member => (valid overlap member).1,
      fun overlap member => (valid overlap member).2, .inl ⟨complete, incomplete⟩⟩, ?_⟩
    have length : (Overlap.positions consequent reference).length ≠ 0 := by simpa using none
    have matched : (Overlap.ofPositions consequent (Overlap.positions consequent reference) reference).matched =
      (Overlap.positions consequent reference).length := complete.2
    simp only [value, if_neg length, Overlap.score, matched]
    rfl

theorem score_search [LT α] [DecidableLT α] {share : Nat → Nat → α} {zero one : α}
    (laws : ShareLaws consequent.length share zero one) (references : List Reference) :
    ((search (Overlap.MorePrecise share) (visits consequent references)).getD ⟨0, consequent.length, 0⟩).score =
      (bestByOverlap consequent references).score := by
  by_cases nonempty : references = []
  · have none : visits consequent [] = [] := by simp [visits]
    rw [nonempty, none]
    rfl
  · obtain ⟨before, winner, after, split, wins, same⟩ := exists_winner consequent nonempty
    have firstBest : FirstBest (Overlap.MorePrecise share) (before ++ winner :: after) winner :=
      ⟨before, after, rfl, wins.best laws⟩
    rw [split, firstBest.search_eq, same]
    rfl

theorem score_bestByEnumeration (references : List Reference) :
    (bestByEnumeration consequent references).score = (bestByOverlap consequent references).score := by
  rw [bestByEnumeration_eq_search, score_search consequent (ShareLaws.exact _)]

theorem score_best (references : List Reference) :
    (best consequent references).score = (bestByOverlap consequent references).score := by
  unfold best
  split
  · exact score_bestByEnumeration consequent references
  · rfl

/-- The score by the shortcut is the score by the search, so that it does not matter where the limit between the two
lies. Nor does it matter whether the search compares exact or reported precisions, as far as these tell a share apart from
nothing and from everything; they do for every consequent that is searched through. -/
theorem score_bestByOverlap (references : List Reference) :
    (bestByOverlap consequent references).score = (bestByEnumeration consequent references).score ∧
      (∀ limit, (if consequent.length ≤ limit then bestByEnumeration consequent references
        else bestByOverlap consequent references).score = (best consequent references).score) ∧
      (consequent.length ≤ enumerationLimit ∨ ProperShares consequent.length →
        ((search (Overlap.MorePrecise ratio) (visits consequent references)).getD ⟨0, consequent.length, 0⟩).score =
          (bestByOverlap consequent references).score) := by
  have agree := score_bestByEnumeration consequent references
  refine ⟨agree.symm, fun limit => ?_, fun known => ?_⟩
  · simp only [best, apply_ite Overlap.score, agree, ite_self]
  · exact score_search consequent (ShareLaws.reported (properShares_of_short known)) references

/-- Two overlaps of the same size, of which the second one comes first. -/
theorem score_bestByOverlap_tied : ["a", "b", "c"].length ≤ enumerationLimit ∧
    ((search (Overlap.MorePrecise ratio) (visits ["a", "b", "c"] [["b", "c", "d"], ["b", "a"], []])).getD
      ⟨0, 3, 0⟩).score = Overlap.score ⟨2, 2, 2⟩ := by
  have short : ["a", "b", "c"].length ≤ enumerationLimit := by decide
  have same := (score_bestByOverlap ["a", "b", "c"] [["b", "c", "d"], ["b", "a"], []]).2.2 (.inl short)
  exact ⟨short, same.trans (by decide +kernel)⟩

end ChangeCoupling.Scoring
