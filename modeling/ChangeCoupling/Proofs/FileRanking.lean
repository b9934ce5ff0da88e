import ChangeCoupling.Mining.Miner
import ChangeCoupling.Proofs.FileCounting

/-! The order in which files are numbered. It is a strict total order on paths that depends only on how many
transactions contain each file, not on the way in which they were counted. -/

namespace ChangeCoupling.Mining

/-- Files are ranked by how many transactions contain them, most of them first, and then by their paths. -/
def RanksBefore (log : List Transaction) (first second : String) : Prop :=
  coverage log {second} < coverage log {first} ∨ coverage log {first} = coverage log {second} ∧ first < second

namespace RanksBefore

variable {log : List Transaction} {first second third : String}

theorem irrefl (file : String) : ¬ RanksBefore log file file := by
  rintro (less | ⟨_, less⟩)
  · exact Nat.lt_irrefl _ less
  · exact String.lt_irrefl _ less

theorem trans (before : RanksBefore log first second) (after : RanksBefore log second third) :
    RanksBefore log first third := by
  rcases before with more | ⟨same, less⟩ <;> rcases after with more' | ⟨same', less'⟩
  · exact .inl (more'.trans more)
  · exact .inl (same' ▸ more)
  · exact .inl (same ▸ more')
  · exact .inr ⟨same.trans same', String.lt_trans less less'⟩

theorem asymm (before : RanksBefore log first second) : ¬ RanksBefore log second first :=
  fun after => irrefl _ (before.trans after)

theorem total (different : first ≠ second) : RanksBefore log first second ∨ RanksBefore log second first := by
  rcases Nat.lt_trichotomy (coverage log {first}) (coverage log {second}) with fewer | same | more
  · exact .inr (.inl fewer)
  · by_cases less : first < second
    · exact .inl (.inr ⟨same, less⟩)
    · refine .inr (.inr ⟨same.symm, ?_⟩)
      rw [← String.not_le]
      exact fun atMost => different (String.le_antisymm atMost (String.not_lt.mp less))
  · exact .inl (.inl more)

end RanksBefore

/-- The files that enough transactions contain, each with the number of them, in the order of their ranks. -/
structure Ranking (log : List Transaction) (threshold : Nat) (files : List (String × Nat)) : Prop where
  sorted : (files.map Prod.fst).Pairwise (RanksBefore log)
  mem_iff : ∀ file count, (file, count) ∈ files ↔ count = coverage log {file} ∧ threshold ≤ count

private theorem precedes_trans (first second third : String × Nat) (before : precedes first second = true)
    (after : precedes second third = true) : precedes first third = true := by
  simp only [precedes, Bool.or_eq_true, Bool.and_eq_true, decide_eq_true_eq, beq_iff_eq] at *
  rcases before with more | ⟨same, less⟩ <;> rcases after with more' | ⟨same', less'⟩
  · exact .inl (by omega)
  · exact .inl (by omega)
  · exact .inl (by omega)
  · exact .inr ⟨same.trans same', String.le_trans less less'⟩

private theorem precedes_total (first second : String × Nat) :
    (precedes first second || precedes second first) = true := by
  simp only [precedes, Bool.or_eq_true, Bool.and_eq_true, decide_eq_true_eq, beq_iff_eq]
  rcases Nat.lt_trichotomy first.2 second.2 with fewer | same | more
  · exact .inr (.inl fewer)
  · rcases String.le_total first.1 second.1 with less | less
    · exact .inl (.inr ⟨same, less⟩)
    · exact .inr (.inr ⟨same.symm, less⟩)
  · exact .inl (.inl more)

/-- Sorting the counted files ranks them. The threshold must not be zero: files that no transaction contains are
not counted at all. -/
theorem ranking_frequentFiles {plan : Plan} (complete : plan.Complete) {chunk : Nat} (positive : 0 < chunk)
    (log : List Transaction) {threshold : Nat} (atLeastOne : 1 ≤ threshold) :
    Ranking log threshold (frequentFiles threshold (countFiles plan chunk log)) := by
  have counted := getD_countFiles complete positive log
  have entries : ∀ file count, (countFiles plan chunk log)[file]? = some count ∧ threshold ≤ count ↔
      count = coverage log {file} ∧ threshold ≤ count := by
    intro file count
    have value := counted file
    rw [Std.HashMap.getD_eq_getD_getElem?] at value
    cases known : (countFiles plan chunk log)[file]? with
    | none =>
      rw [known, Option.getD_none] at value
      constructor
      · rintro ⟨found, _⟩
        cases found
      · rintro ⟨rfl, enough⟩
        omega
    | some amount =>
      rw [known, Option.getD_some] at value
      rw [value, Option.some.injEq, eq_comm]
  have mem_iff : ∀ file count, (file, count) ∈ frequentFiles threshold (countFiles plan chunk log) ↔
      count = coverage log {file} ∧ threshold ≤ count := by
    intro file count
    rw [← entries, frequentFiles, List.mem_mergeSort, List.mem_filter, Std.HashMap.mem_toList_iff_getElem?_eq_some,
      decide_eq_true_iff]
  refine ⟨?_, mem_iff⟩
  have distinct : (frequentFiles threshold (countFiles plan chunk log)).Pairwise (fun a b => a.1 ≠ b.1) := by
    apply ((List.mergeSort_perm _ _).pairwise_iff (fun different => different.symm)).mpr
    apply List.Pairwise.filter
    exact Std.HashMap.distinct_keys_toList.imp (by simp)
  have sorted : (frequentFiles threshold (countFiles plan chunk log)).Pairwise (fun a b => precedes a b = true) :=
    List.pairwise_mergeSort precedes_trans precedes_total _
  rw [List.pairwise_map]
  refine (sorted.and distinct).imp_of_mem ?_
  rintro ⟨first, firstCount⟩ ⟨second, secondCount⟩ firstMember secondMember ⟨before, different⟩
  have firstCounted := ((mem_iff _ _).mp firstMember).1
  have secondCounted := ((mem_iff _ _).mp secondMember).1
  simp only [precedes, Bool.or_eq_true, Bool.and_eq_true, decide_eq_true_eq, beq_iff_eq, firstCounted,
    secondCounted] at before
  rcases before with more | ⟨same, atMost⟩
  · exact .inl more
  · refine .inr ⟨same, ?_⟩
    rw [← String.not_le]
    exact fun atLeast => different (String.le_antisymm atMost atLeast)

end ChangeCoupling.Mining
