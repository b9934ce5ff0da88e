import ChangeCoupling.StatsTable
import Mathlib.Data.List.Induction
import Mathlib.Data.List.Nodup

/-! Records that are put into a table one after the other. The index has the position of every record and nothing else,
so no two records share a path, and the records of a table are all that it takes to build the table again. -/

namespace ChangeCoupling.StatsTable

theorem mentions_insert (table : StatsTable) (record : FileStats) (path : String) :
    (table.insert record).mentions path = (table.mentions path || record.path == path) := by
  unfold insert
  split
  next known =>
    by_cases same : record.path = path
    · rw [← same, known]
      rfl
    · simp [same]
  next =>
    rw [mentions, Std.HashMap.contains_insert, Bool.or_comm]
    rfl

theorem toList_insert (table : StatsTable) (record : FileStats) :
    (table.insert record).toList =
      if table.mentions record.path then table.toList else table.toList ++ [record] := by
  unfold insert
  split
  next => rfl
  next => simp [toList]

theorem insert_of_mentions {table : StatsTable} {record : FileStats} (known : table.mentions record.path = true) :
    table.insert record = table := if_pos known

theorem ofRecords_concat (records : List FileStats) (record : FileStats) :
    ofRecords (records ++ [record]) = (ofRecords records).insert record := List.foldl_concat ..

theorem mentions_ofRecords (records : List FileStats) (path : String) :
    (ofRecords records).mentions path = records.any (·.path == path) := by
  induction records using List.reverseRecOn with
  | nil => simp [ofRecords, empty, mentions]
  | append_singleton records record ih =>
    rw [ofRecords_concat, mentions_insert, ih, List.any_append, List.any_cons, List.any_nil,
      Bool.or_false]

/-- The paths of the records, in order. -/
def paths (table : StatsTable) : List String := table.toList.map FileStats.path

/-- The index knows where the records are, and inserting the records again gives the same table. -/
structure Consistent (table : StatsTable) : Prop where
  index : ∀ (path : String) (position : Nat), table.index[path]? = some position ↔ table.paths[position]? = some path
  rebuilt : ofRecords table.toList = table

namespace Consistent

variable {table : StatsTable}

theorem mentions_iff (consistent : Consistent table) (path : String) :
    table.mentions path = true ↔ path ∈ table.paths := by
  rw [mentions, Std.HashMap.contains_eq_isSome_getElem?, Option.isSome_iff_exists, List.mem_iff_getElem?]
  exact exists_congr (consistent.index path)

theorem nodup_paths (consistent : Consistent table) : table.paths.Nodup := by
  rw [List.nodup_iff_getElem?_ne_getElem?]
  intro i j less inside same
  obtain ⟨path, stored⟩ : ∃ path, table.paths[j]? = some path := ⟨_, List.getElem?_eq_getElem inside⟩
  have first := (consistent.index path i).mpr (same.trans stored)
  have second := (consistent.index path j).mpr stored
  rw [first, Option.some.injEq] at second
  omega

theorem insert (consistent : Consistent table) (record : FileStats) : Consistent (table.insert record) := by
  by_cases known : table.mentions record.path = true
  · rwa [StatsTable.insert, if_pos known]
  have appended : (table.insert record).toList = table.toList ++ [record] := by
    rw [toList_insert, if_neg known]
  have absent : record.path ∉ table.paths := fun stored => known ((consistent.mentions_iff record.path).mpr stored)
  constructor
  · intro path position
    have size : table.paths.length = table.records.size := by simp [paths, toList]
    rw [paths, appended, List.map_append, ← paths, StatsTable.insert, if_neg known]
    dsimp only
    rw [Std.HashMap.getElem?_insert]
    by_cases same : record.path = path
    · subst same
      rw [if_pos BEq.rfl, Option.some.injEq, ← size]
      constructor
      · intro last
        subst last
        exact List.getElem?_concat_length
      · intro stored
        rw [List.getElem?_append] at stored
        split at stored
        next => exact absurd (List.mem_of_getElem? stored) absent
        next beyond =>
          have inside := (List.getElem?_eq_some_iff.mp stored).1
          simp only [List.map_singleton, List.length_singleton] at inside
          omega
    · rw [if_neg (by simpa using same), consistent.index]
      constructor
      · intro stored
        rw [List.getElem?_append_left (List.getElem?_eq_some_iff.mp stored).1]
        exact stored
      · intro stored
        rw [List.getElem?_append] at stored
        split at stored
        next => exact stored
        next =>
          exact absurd (List.mem_singleton.mp (List.mem_of_getElem? stored)).symm same
  · rw [appended, ofRecords_concat, consistent.rebuilt]

theorem get?_eq_some_iff (consistent : Consistent table) {path : String} {record : FileStats} :
    table.get? path = some record ↔ record ∈ table.toList ∧ record.path = path := by
  have stored (position : Nat) : table.index[path]? = some position ∧ table.records[position]? = some record ↔
      table.toList[position]? = some record ∧ record.path = path := by
    rw [consistent.index, paths, List.getElem?_map, toList, Array.getElem?_toList]
    constructor
    · intro found
      exact ⟨found.2, by simpa [found.2] using found.1⟩
    · intro found
      exact ⟨by simp [found.1, found.2], found.1⟩
  rw [get?, Option.bind_eq_some_iff, exists_congr stored, exists_and_right, ← List.mem_iff_getElem?]

end Consistent

/-- Every run of insertions leaves a consistent table. -/
theorem consistent_ofRecords (records : List FileStats) : Consistent (ofRecords records) := by
  apply List.foldlRecOn (motive := Consistent)
  · constructor
    · simp [empty, paths, toList]
    · rfl
  · intro table consistent record _
    exact consistent.insert record

theorem toList_ofRecords {records : List FileStats} (distinct : (records.map FileStats.path).Nodup) :
    (ofRecords records).toList = records := by
  induction records using List.reverseRecOn with
  | nil => rfl
  | append_singleton records record ih =>
    rw [List.map_append, List.nodup_append] at distinct
    obtain ⟨before, _, apart⟩ := distinct
    have new : ¬ (ofRecords records).mentions record.path = true := by
      rw [(consistent_ofRecords records).mentions_iff, paths, ih before]
      intro stored
      exact apart record.path stored record.path (by simp) rfl
    rw [ofRecords_concat, toList_insert, if_neg new, ih before]

end ChangeCoupling.StatsTable
