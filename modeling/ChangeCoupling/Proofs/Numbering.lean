import ChangeCoupling.Proofs.Combinations
import ChangeCoupling.Proofs.FileRanking

/-! Files as numbers. A transaction contains the files of some numbers exactly if its encoding contains the numbers,
so that counting encoded transactions counts transactions. -/

namespace ChangeCoupling.Mining

/-- A map made of the positions of distinct items is the inverse of looking up a position. -/
theorem getElem?_positions [BEq κ] [LawfulBEq κ] [Hashable κ] [LawfulHashable κ] {items : List κ}
    (distinct : items.Nodup) (key : κ) (position : Nat) :
    (Std.HashMap.ofList items.zipIdx)[key]? = some position ↔ items[position]? = some key := by
  have keys : items.zipIdx.Pairwise (fun a b => (a.1 == b.1) = false) := by
    have firsts : (items.zipIdx.map Prod.fst).Pairwise (· ≠ ·) := by rwa [List.zipIdx_map_fst]
    exact (List.pairwise_map.mp firsts).imp (by simp)
  constructor
  · intro known
    by_cases member : key ∈ items
    · obtain ⟨other, inside, same⟩ := List.mem_iff_getElem.mp member
      have found := Std.HashMap.getElem?_ofList_of_mem (beq_self_eq_true key) keys
        (List.mem_zipIdx_iff_getElem?.mpr (List.getElem?_eq_some_iff.mpr ⟨inside, same⟩) : (key, other) ∈ items.zipIdx)
      rw [found, Option.some.injEq] at known
      exact known ▸ List.getElem?_eq_some_iff.mpr ⟨inside, same⟩
    · rw [Std.HashMap.getElem?_ofList_of_contains_eq_false (by simpa [List.zipIdx_map_fst] using member)] at known
      cases known
  · intro found
    exact Std.HashMap.getElem?_ofList_of_mem (beq_self_eq_true key) keys (List.mem_zipIdx_iff_getElem?.mpr found)

def decode (names : List String) (ids : Ids) : List String := ids.map fun id => names.getD id ""

variable {names : List String}

theorem mem_encode (distinct : names.Nodup) (transaction : Transaction) (id : Nat) :
    id ∈ encode (Std.HashMap.ofList names.zipIdx) transaction ↔ ∃ file ∈ transaction.files, names[id]? = some file := by
  simp only [encode, List.mem_mergeSort, List.mem_filterMap, getElem?_positions distinct]

theorem encode_increasing (distinct : names.Nodup) (transaction : Transaction) :
    (encode (Std.HashMap.ofList names.zipIdx) transaction).Pairwise (· < ·) := by
  have nodup : (encode (Std.HashMap.ofList names.zipIdx) transaction).Nodup := by
    apply (List.mergeSort_perm _ _).nodup_iff.mpr
    apply List.Nodup.filterMap _ transaction.distinct
    intro first second id firstNumber secondNumber
    rw [Option.mem_def, getElem?_positions distinct] at firstNumber secondNumber
    exact Option.some.inj (firstNumber.symm.trans secondNumber)
  have sorted : (encode (Std.HashMap.ofList names.zipIdx) transaction).Pairwise (· ≤ ·) :=
    List.sortedLE_mergeSort.pairwise
  exact (sorted.and nodup).imp fun ⟨atMost, different⟩ => Nat.lt_of_le_of_ne atMost different

theorem sublist_encode_iff (distinct : names.Nodup) {ids : Ids} (increasing : ids.Pairwise (· < ·))
    (inRange : ∀ id ∈ ids, id < names.length) (transaction : Transaction) :
    ids.Sublist (encode (Std.HashMap.ofList names.zipIdx) transaction) ↔
      (decode names ids).toFinset ⊆ transaction.fileSet := by
  rw [sublist_iff_subset increasing (encode_increasing distinct transaction)]
  have each : ∀ id ∈ ids, id ∈ encode (Std.HashMap.ofList names.zipIdx) transaction ↔
      names.getD id "" ∈ transaction.fileSet := by
    intro id member
    have inside := inRange id member
    simp [mem_encode distinct, Transaction.fileSet, inside]
  constructor
  · intro within file member
    obtain ⟨id, idMember, rfl⟩ := List.mem_map.mp (List.mem_toFinset.mp member)
    exact (each id idMember).mp (within idMember)
  · intro within id member
    exact (each id member).mpr (within (List.mem_toFinset.mpr (List.mem_map.mpr ⟨id, member, rfl⟩)))

/-- Numbers that stand for files, in increasing order, which enough transactions contain together. -/
structure Frequent (log : List Transaction) (threshold : Nat) (names : List String) (ids : Ids) : Prop where
  increasing : ids.Pairwise (· < ·)
  inRange : ∀ id ∈ ids, id < names.length
  enough : threshold ≤ coverage log (decode names ids).toFinset

theorem Frequent.part {log : List Transaction} {threshold : Nat} {part ids : Ids}
    (frequent : Frequent log threshold names ids) (within : part.Sublist ids) : Frequent log threshold names part := by
  refine ⟨frequent.increasing.sublist within, fun id member => frequent.inRange id (within.subset member), ?_⟩
  refine frequent.enough.trans (coverage_anti log ?_)
  intro file member
  exact List.mem_toFinset.mpr ((within.map _).subset (List.mem_toFinset.mp member))

/-- The transactions as they are counted from the second level on: those with fewer than two frequent files are
left out. -/
def encodeLog (names : List String) (log : List Transaction) : List Ids :=
  (log.map (encode (Std.HashMap.ofList names.zipIdx))).filter fun transaction => 2 ≤ transaction.length

theorem encodeLog_increasing (distinct : names.Nodup) (log : List Transaction) :
    ∀ transaction ∈ encodeLog names log, transaction.Pairwise (· < ·) := by
  intro transaction member
  obtain ⟨original, _, rfl⟩ := List.mem_map.mp (List.mem_filter.mp member).1
  exact encode_increasing distinct original

/-- Leaving out the short ones does not change the count of a set of at least two files. -/
theorem countP_encodeLog (distinct : names.Nodup) (log : List Transaction) {ids : Ids}
    (increasing : ids.Pairwise (· < ·)) (inRange : ∀ id ∈ ids, id < names.length) (several : 2 ≤ ids.length) :
    (encodeLog names log).countP (fun transaction => ids.isSublist transaction) =
      coverage log (decode names ids).toFinset := by
  unfold encodeLog
  rw [List.countP_filter, List.countP_map]
  apply List.countP_congr
  intro transaction _
  simp only [Function.comp_apply, Bool.and_eq_true, decide_eq_true_eq, List.isSublist_iff_sublist]
  rw [← sublist_encode_iff distinct increasing inRange]
  exact ⟨fun both => both.1, fun within => ⟨within, several.trans within.length_le⟩⟩

end ChangeCoupling.Mining
