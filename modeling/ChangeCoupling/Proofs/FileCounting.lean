import ChangeCoupling.Mining.Counting
import ChangeCoupling.Mining.Itemset
import ChangeCoupling.Proofs.Gathering
import Mathlib.Data.Finset.Basic
import Mathlib.Data.Finset.Dedup

/-! How many transactions contain a set of files, and that counting finds this number for single files. -/

namespace ChangeCoupling

def Transaction.fileSet (transaction : Transaction) : Finset String := transaction.files.toFinset

/-- The number of transactions that contain a set of files. -/
def coverage (log : List Transaction) (files : Finset String) : Nat :=
  log.countP fun transaction => files ⊆ transaction.fileSet

theorem coverage_singleton (log : List Transaction) (file : String) :
    coverage log {file} = log.countP (·.contains file) := by
  apply List.countP_congr
  intro transaction _
  simp [Transaction.fileSet, Transaction.contains]

theorem coverage_anti (log : List Transaction) {part whole : Finset String} (within : part ⊆ whole) :
    coverage log whole ≤ coverage log part := by
  apply List.countP_mono_left
  intro transaction _ contained
  rw [decide_eq_true_iff] at contained ⊢
  exact within.trans contained

namespace Mining

namespace FileCounts

theorem getD_add (counts : FileCounts) (file other : String) (amount : Nat) :
    (counts.add file amount).getD other 0 = counts.getD other 0 + if file = other then amount else 0 := by
  unfold add
  rw [Std.HashMap.getD_insert]
  by_cases same : file = other
  · simp [same]
  · simp [same]

private theorem getD_addAll (entries : List (String × Nat)) (counts : FileCounts) (file : String) :
    (entries.foldl (fun counts entry => counts.add entry.1 entry.2) counts).getD file 0 =
      counts.getD file 0 + (entries.map fun entry => if entry.1 = file then entry.2 else 0).sum := by
  induction entries generalizing counts with
  | nil => simp
  | cons entry rest ih =>
    simp only [List.foldl_cons, List.map_cons, List.sum_cons]
    rw [ih, getD_add, Nat.add_assoc]

/-- With distinct keys at most one entry belongs to a file. -/
private theorem sum_matching (entries : List (String × Nat)) (distinct : (entries.map Prod.fst).Nodup) (file : String) :
    (∀ amount, (file, amount) ∈ entries →
      (entries.map fun entry => if entry.1 = file then entry.2 else 0).sum = amount) ∧
    (file ∉ entries.map Prod.fst → (entries.map fun entry => if entry.1 = file then entry.2 else 0).sum = 0) := by
  induction entries with
  | nil => simp
  | cons entry rest ih =>
    rw [List.map_cons, List.nodup_cons] at distinct
    obtain ⟨found, missing⟩ := ih distinct.2
    simp only [List.map_cons, List.sum_cons]
    by_cases same : entry.1 = file
    · refine ⟨?_, ?_⟩
      · intro amount member
        have absent : file ∉ rest.map Prod.fst := same ▸ distinct.1
        have first : (file, amount) = entry := by
          rcases List.mem_cons.mp member with first | later
          · exact first
          · exact False.elim (absent (List.mem_map.mpr ⟨_, later, rfl⟩))
        rw [missing absent, ← first]
        simp
      · intro outside
        exact False.elim (outside (List.mem_cons.mpr (.inl same.symm)))
    · rw [if_neg same, Nat.zero_add]
      refine ⟨?_, ?_⟩
      · intro amount member
        apply found
        rcases List.mem_cons.mp member with first | later
        · exact False.elim (same (congrArg Prod.fst first).symm)
        · exact later
      · intro outside
        exact missing fun later => outside (List.mem_cons_of_mem _ later)

theorem getD_merge (first second : FileCounts) (file : String) :
    (first.merge second).getD file 0 = first.getD file 0 + second.getD file 0 := by
  have distinct : (second.toList.map Prod.fst).Nodup := by
    rw [List.nodup_iff_pairwise_ne, List.pairwise_map]
    exact Std.HashMap.distinct_keys_toList.imp (by simp)
  obtain ⟨found, missing⟩ := sum_matching second.toList distinct file
  have lookup : second.getD file 0 = second[file]?.getD 0 := Std.HashMap.getD_eq_getD_getElem?
  unfold merge
  rw [Std.HashMap.fold_eq_foldl_toList, getD_addAll, lookup]
  congr 1
  cases known : second[file]? with
  | some amount => exact found amount (Std.HashMap.mem_toList_iff_getElem?_eq_some.mpr known)
  | none =>
    apply missing
    intro member
    obtain ⟨⟨key, amount⟩, entry, rfl⟩ := List.mem_map.mp member
    rw [Std.HashMap.mem_toList_iff_getElem?_eq_some.mp entry] at known
    cases known

private theorem getD_addFiles (files : List String) (counts : FileCounts) (file : String) :
    (files.foldl (fun counts file => counts.add file 1) counts).getD file 0 =
      counts.getD file 0 + files.count file := by
  induction files generalizing counts with
  | nil => simp
  | cons other rest ih =>
    rw [List.foldl_cons, ih, getD_add, List.count_cons]
    by_cases same : other = file
    · simp [same]; omega
    · simp [same]

theorem getD_ofPart (part : List Transaction) (file : String) :
    (ofPart part).getD file 0 = part.countP (·.contains file) := by
  have counted : ∀ counts : FileCounts,
      (part.foldl (fun counts transaction => transaction.files.foldl (fun counts file => counts.add file 1) counts)
        counts).getD file 0 = counts.getD file 0 + part.countP (·.contains file) := by
    induction part with
    | nil => simp
    | cons transaction rest ih =>
      intro counts
      have once : transaction.files.count file = if transaction.contains file then 1 else 0 := by
        rw [List.Nodup.count transaction.distinct]
        simp [Transaction.contains]
      rw [List.foldl_cons, ih, getD_addFiles, once, List.countP_cons]
      omega
  simpa [ofPart] using counted ∅

end FileCounts

/-- Whatever the pieces and the way they are brought together, each file is counted once for each transaction that
contains it. -/
theorem getD_countFiles {plan : Plan} (complete : plan.Complete) {chunk : Nat} (positive : 0 < chunk)
    (log : List Transaction) (file : String) : (countFiles plan chunk log).getD file 0 = coverage log {file} := by
  have additive : Gather.Additive (fun _ : FileCounts => True) (fun counts => counts.getD file 0) ∅ FileCounts.merge :=
    ⟨trivial, fun _ _ _ _ => trivial, by simp, fun first second _ _ => FileCounts.getD_merge first second file⟩
  have covers : (plan 1 (chunks chunk log).length).Covers ((chunks chunk log).map FileCounts.ofPart).length := by
    simpa using complete 1 (chunks chunk log).length
  unfold countFiles
  rw [(Gather.runList_additive additive _ (fun _ _ => trivial) _ covers).2, List.map_map, coverage_singleton,
    ← sum_countP_chunks positive]
  congr 1
  apply List.map_congr_left
  intro part _
  exact FileCounts.getD_ofPart part file

end Mining

end ChangeCoupling
