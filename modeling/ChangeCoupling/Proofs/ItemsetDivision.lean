import ChangeCoupling.Band.Report
import ChangeCoupling.Proofs.BandRoundTrip
import ChangeCoupling.Proofs.SizeGroupRules
import Mathlib.Algebra.BigOperators.Group.List.Lemmas

/-! Itemsets are divided twice, by their support into bands and by their size into groups. Each division decides on its own
which itemsets are large enough, and both leave out the same ones: no other itemset gets lost or is counted twice. -/

namespace ChangeCoupling

namespace Band.Thresholds

/-- The supports that belong to a band. -/
def covers (thresholds : Thresholds) : Band → Nat → Bool
  | .infrequent, support => support < thresholds.low
  | .frequent, support => thresholds.low ≤ support && support < thresholds.high
  | .veryFrequent, support => thresholds.high ≤ support

theorem covers_iff {thresholds : Thresholds} {band : Band} {support : Nat} :
    thresholds.covers band support = true ↔ band = thresholds.band support := by
  have ordered := thresholds.low_le_high
  unfold Thresholds.band
  cases band
  all_goals grind [covers]

end Band.Thresholds

theorem BandTable.length_namedColumns (table : BandTable) :
    table.namedColumns.map (·.2.length) = List.replicate 6 table.toList.length := by
  simp [namedColumns, toList, List.replicate]

namespace BandReport

variable {stats : StatsTable} {thresholds : Band.Thresholds} {report : BandReport} {itemsets : List Itemset}

theorem table_push (report : BandReport) (into : Band) (means : Means) (band : Band) :
    (report.push into means).table band =
      if band = into then (report.table band).push means else report.table band := by
  cases into <;> cases band <;> rfl

theorem sum_size_push (report : BandReport) (into : Band) (means : Means) :
    ((report.push into means).tables.map BandTable.size).sum = (report.tables.map BandTable.size).sum + 1 := by
  cases into
  all_goals
    simp only [tables, Band.all, table, push, BandTable.push, List.map_cons, List.map_nil, List.sum_cons, List.sum_nil]
    omega

theorem supports_push (report : BandReport) (into : Band) (means : Means) :
    (report.push into means).supports = report.supports := by
  cases into <;> rfl

theorem skipped_push (report : BandReport) (into : Band) (means : Means) :
    (report.push into means).skipped = report.skipped := by
  cases into <;> rfl

/-- The report says where the itemsets of several files are, and how many others there were. -/
structure Divides (stats : StatsTable) (thresholds : Band.Thresholds) (itemsets : List Itemset) (report : BandReport) :
    Prop where
  label : ∀ band, (report.table band).band = band
  rows : ∀ band, (report.table band).toList =
    ((itemsets.filter (2 ≤ ·.size)).filter fun itemset => thresholds.covers band itemset.support).map
      fun itemset => Means.ofItems stats itemset.items
  supports : report.supports.toList = (itemsets.filter (2 ≤ ·.size)).map Itemset.support
  skipped : report.skipped = itemsets.countP (·.size < 2)
  sizes : (report.tables.map BandTable.size).sum = report.supports.size

namespace Divides

theorem skip (divides : Divides stats thresholds itemsets report) {itemset : Itemset} (small : itemset.size < 2) :
    Divides stats thresholds (itemsets ++ [itemset]) { report with skipped := report.skipped + 1 } := by
  have others : (itemsets ++ [itemset]).filter (2 ≤ ·.size) = itemsets.filter (2 ≤ ·.size) := by simp [small]
  constructor
  · exact divides.label
  · rw [others]
    exact divides.rows
  · rw [others]
    exact divides.supports
  · rw [List.countP_append, List.countP_singleton, if_pos (decide_eq_true small), ← divides.skipped]
  · exact divides.sizes

theorem push (divides : Divides stats thresholds itemsets report) {itemset : Itemset} (several : 2 ≤ itemset.size) :
    let banded := report.push (thresholds.band itemset.support) (Means.ofItems stats itemset.items)
    Divides stats thresholds (itemsets ++ [itemset])
      { banded with supports := banded.supports.push itemset.support } := by
  intro banded
  have all : (itemsets ++ [itemset]).filter (2 ≤ ·.size) = itemsets.filter (2 ≤ ·.size) ++ [itemset] := by
    simp [several]
  constructor
  · intro band
    change (banded.table band).band = band
    rw [table_push]
    split
    next => exact divides.label band
    next => exact divides.label band
  · intro band
    change (banded.table band).toList = _
    rw [table_push, all, List.filter_append, List.map_append, ← divides.rows]
    by_cases into : band = thresholds.band itemset.support
    · rw [if_pos into, BandTable.toList_push, List.filter_singleton, Band.Thresholds.covers_iff.mpr into]
      rfl
    · have other : thresholds.covers band itemset.support = false :=
        Bool.eq_false_iff.mpr fun covers => into (Band.Thresholds.covers_iff.mp covers)
      rw [if_neg into, List.filter_singleton, other]
      exact (List.append_nil _).symm
  · rw [all, List.map_append, ← divides.supports, supports_push, Array.toList_push]
    rfl
  · have notSmall : ¬ decide (itemset.size < 2) = true :=
      fun small => absurd (of_decide_eq_true small) (Nat.not_lt.mpr several)
    rw [skipped_push, divides.skipped, List.countP_append, List.countP_singleton, if_neg notSmall]
    rfl
  · change (banded.tables.map BandTable.size).sum = _
    rw [sum_size_push, divides.sizes, supports_push, Array.size_push]

theorem add (divides : Divides stats thresholds itemsets report) (itemset : Itemset) :
    Divides stats thresholds (itemsets ++ [itemset]) (report.add stats thresholds itemset) := by
  unfold BandReport.add
  split
  next small => exact divides.skip small
  next notSmall => exact divides.push (Nat.le_of_not_lt notSmall)

theorem sum_sizes (divides : Divides stats thresholds itemsets report) :
    (report.tables.map BandTable.size).sum = itemsets.countP (2 ≤ ·.size) := by
  rw [divides.sizes, ← Array.length_toList, divides.supports, List.length_map, List.countP_eq_length_filter]

end Divides

theorem divides_ofItemsets (stats : StatsTable) (thresholds : Band.Thresholds) (itemsets : List Itemset) :
    Divides stats thresholds itemsets (ofItemsets stats thresholds itemsets) := by
  induction itemsets using List.reverseRecOn with
  | nil =>
    constructor
    · intro band
      cases band <;> rfl
    · intro band
      cases band <;> rfl
    · rfl
    · rfl
    · rfl
  | append_singleton itemsets itemset ih =>
    rw [ofItemsets, List.foldl_concat]
    exact ih.add itemset

/-- Every support belongs to one band. The table of a band has a row for each itemset of several files with such a
support, in their order: the means of its files. Its six columns are as long as that. The supports of these itemsets are
listed together, and the other itemsets are counted, so that each itemset occurs once. -/
theorem ofItemsets_divided (stats : StatsTable) (thresholds : Band.Thresholds) (itemsets : List Itemset) :
    let report := ofItemsets stats thresholds itemsets
    let several := itemsets.filter (2 ≤ ·.size)
    (∀ support, ∃! band, thresholds.covers band support = true) ∧
    (∀ band, (report.table band).band = band ∧
      (report.table band).toList = (several.filter fun itemset => thresholds.covers band itemset.support).map
        (fun itemset => Means.ofItems stats itemset.items) ∧
      (report.table band).namedColumns.map (·.2.length) = List.replicate 6 (report.table band).toList.length) ∧
    report.supports.toList = several.map Itemset.support ∧
    report.skipped + (report.tables.map BandTable.size).sum = itemsets.length ∧
    report.supports.size = (report.tables.map BandTable.size).sum := by
  intro report several
  have divides := divides_ofItemsets stats thresholds itemsets
  refine ⟨?_, ?_, divides.supports, ?_, divides.sizes.symm⟩
  · intro support
    refine ⟨thresholds.band support, Band.Thresholds.covers_iff.mpr rfl, ?_⟩
    intro band covers
    exact Band.Thresholds.covers_iff.mp covers
  · intro band
    exact ⟨divides.label band, divides.rows band, BandTable.length_namedColumns _⟩
  · have others : itemsets.countP (fun itemset => ¬ decide (itemset.size < 2) = true) = itemsets.countP (2 ≤ ·.size) :=
      List.countP_congr fun itemset _ => by simp only [decide_eq_true_eq, Nat.not_lt]
    rw [divides.sum_sizes, divides.skipped, ← others]
    exact (List.length_eq_countP_add_countP _).symm

/-- Both thresholds are the same, so that nothing falls between them, and no file has statistics. -/
theorem ofItemsets_divided_at_two :
    let report := ofItemsets .empty ⟨2, 2, Nat.le_refl 2⟩ [⟨["core"], 9⟩, ⟨["docs", "core"], 1⟩, ⟨["core", "docs"], 2⟩]
    (report.table .infrequent).toList = [Means.ofItems .empty ["docs", "core"]] ∧
      (report.table .frequent).toList = [] ∧
      (report.table .veryFrequent).toList = [Means.ofItems .empty ["core", "docs"]] ∧
      report.supports.toList = [1, 2] ∧ report.skipped + (report.tables.map BandTable.size).sum = 3 := by
  obtain ⟨_, tables, supports, total, _⟩ := ofItemsets_divided .empty ⟨2, 2, Nat.le_refl 2⟩
    [⟨["core"], 9⟩, ⟨["docs", "core"], 1⟩, ⟨["core", "docs"], 2⟩]
  exact ⟨(tables .infrequent).2.1, (tables .frequent).2.1, (tables .veryFrequent).2.1, supports, total⟩

end BandReport

namespace SizeGroups

theorem toList_group {itemsets : List Itemset} {size : Nat} {group : Array Itemset}
    (known : (ofItemsets itemsets)[size]? = some group) :
    group.toList = itemsets.filter (·.size = size) ∧ group ≠ #[] := by
  obtain ⟨members, nonempty⟩ := (getElem?_ofItemsets itemsets size group).mp known
  obtain ⟨itemset, inside⟩ := List.exists_mem_of_ne_nil group.toList (by simpa using nonempty)
  have several := (mem_group known inside).2.2
  refine ⟨?_, nonempty⟩
  rw [members]
  apply List.filter_congr
  intro itemset _
  exact decide_eq_decide.mpr (by omega)

theorem map_size_toList (itemsets : List Itemset) : (ofItemsets itemsets).toList.map (·.2.size) =
    (ofItemsets itemsets).keys.map fun size => (itemsets.map Itemset.size).count size := by
  rw [← Std.TreeMap.map_fst_toList_eq_keys, List.map_map]
  apply List.map_congr_left
  intro entry member
  have known := Std.TreeMap.mem_toList_iff_getElem?_eq_some.mp member
  rw [Function.comp_apply, ← Array.length_toList, (toList_group known).1, ← List.countP_eq_length_filter, List.count,
    List.countP_map]
  rfl

/-- Counting the itemsets size by size is counting those of several files. -/
theorem sum_map_size_toList (itemsets : List Itemset) :
    ((ofItemsets itemsets).toList.map (·.2.size)).sum = itemsets.countP (2 ≤ ·.size) := by
  have distinct := nodup_of_pairwise Nat.lt_irrefl (ordered_keys (ofItemsets itemsets))
  have sizes : (ofItemsets itemsets).keys.Perm ((itemsets.map Itemset.size).dedup.filter (2 ≤ ·)) := by
    apply (List.perm_ext_iff_of_nodup distinct ((List.nodup_dedup _).filter _)).mpr
    intro size
    rw [Std.TreeMap.mem_keys, mem_ofItemsets, List.mem_filter, List.mem_dedup, List.mem_map, decide_eq_true_iff, and_comm]
    rfl
  rw [map_size_toList, (sizes.map _).sum_nat, List.sum_map_count_dedup_filter_eq_countP, List.countP_map]
  rfl

/-- The groups are those of all sizes from two on that occur, smaller sizes first, and each has all the itemsets of its
size in their order. Another order of the itemsets changes the order inside the groups only. There are as many itemsets in
the groups as rows in the tables of the bands. -/
theorem ofItemsets_grouped (itemsets : List Itemset) :
    let groups := ofItemsets itemsets
    groups.keys.Pairwise (· < ·) ∧
    (∀ size, size ∈ groups.keys ↔ 2 ≤ size ∧ ∃ itemset ∈ itemsets, itemset.size = size) ∧
    (∀ size group, groups[size]? = some group → group.toList = itemsets.filter (·.size = size) ∧ group ≠ #[]) ∧
    (∀ itemsets', itemsets.Perm itemsets' → (ofItemsets itemsets').keys = groups.keys ∧
      ∀ size, (groups.getD size #[]).toList.Perm ((ofItemsets itemsets').getD size #[]).toList) ∧
    ∀ stats thresholds, (groups.toList.map (·.2.size)).sum =
      ((BandReport.ofItemsets stats thresholds itemsets).tables.map BandTable.size).sum := by
  intro groups
  refine ⟨ordered_keys groups, ?_, fun _ _ => toList_group, ?_, ?_⟩
  · intro size
    rw [Std.TreeMap.mem_keys, mem_ofItemsets]
    rfl
  · intro itemsets' same
    constructor
    · refine eq_of_pairwise_of_mem_iff (fun _ _ => Nat.lt_asymm) (ordered_keys _) (ordered_keys _) ?_
      intro size
      simp only [groups, Std.TreeMap.mem_keys, mem_ofItemsets, same.mem_iff]
    · intro size
      rw [toList_getD_ofItemsets, toList_getD_ofItemsets]
      exact same.filter _
  · intro stats thresholds
    rw [sum_map_size_toList, (BandReport.divides_ofItemsets stats thresholds itemsets).sum_sizes]

/-- A triple between two pairs and a single file at the end. -/
theorem ofItemsets_grouped_interleaved :
    let itemsets : List Itemset :=
      [⟨["core", "docs"], 4⟩, ⟨["core", "docs", "tests"], 3⟩, ⟨["docs", "tests"], 5⟩, ⟨["core"], 9⟩]
    let groups := ofItemsets itemsets
    itemsets.Perm itemsets.reverse ∧ (ofItemsets itemsets.reverse).keys = groups.keys ∧
      (∃ group, groups[2]? = some group ∧ group.toList = [⟨["core", "docs"], 4⟩, ⟨["docs", "tests"], 5⟩]) ∧
      (groups.getD 2 #[]).toList.Perm ((ofItemsets itemsets.reverse).getD 2 #[]).toList := by
  intro itemsets groups
  have reversed : itemsets.Perm itemsets.reverse := (List.reverse_perm itemsets).symm
  obtain ⟨_, sizes, members, reordered, _⟩ := ofItemsets_grouped itemsets
  obtain ⟨sameKeys, sameGroups⟩ := reordered itemsets.reverse reversed
  have isKey : 2 ∈ groups.keys := (sizes 2).mpr ⟨Nat.le_refl 2, ⟨["core", "docs"], 4⟩, by simp [itemsets], rfl⟩
  obtain ⟨group, known⟩ := Option.isSome_iff_exists.mp
    (Std.TreeMap.mem_iff_isSome_getElem?.mp (Std.TreeMap.mem_keys.mp isKey))
  exact ⟨reversed, sameKeys, ⟨group, known, (members 2 group known).1⟩, sameGroups 2⟩

end SizeGroups

end ChangeCoupling
