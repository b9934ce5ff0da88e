import ChangeCoupling.Proofs.StatsInsertion

/-! Which records a run of insertions keeps. At any time the table holds the first record of each path that has been
inserted, in the order of the insertions, and every insertion has told whether its record is one of them. -/

namespace ChangeCoupling.StatsTable

/-- Inserts records one after the other and tells of each whether it was put in. -/
def insertAll (table : StatsTable) : List FileStats → List Bool × StatsTable
  | [] => ([], table)
  | record :: rest =>
    let (added, table) := table.tryInsert record
    let (answers, table) := table.insertAll rest
    (added :: answers, table)

theorem insertAll_append (table : StatsTable) (before after : List FileStats) :
    table.insertAll (before ++ after) =
      ((table.insertAll before).1 ++ ((table.insertAll before).2.insertAll after).1,
        ((table.insertAll before).2.insertAll after).2) := by
  induction before generalizing table with
  | nil => rfl
  | cons record rest ih => simp only [List.cons_append, insertAll, ih]

theorem insertAll_singleton (table : StatsTable) (record : FileStats) :
    table.insertAll [record] = ([!table.mentions record.path], table.insert record) := rfl

theorem snd_insertAll (records : List FileStats) : (empty.insertAll records).2 = ofRecords records := by
  induction records using List.reverseRecOn with
  | nil => rfl
  | append_singleton records record ih => rw [insertAll_append, ih, insertAll_singleton, ofRecords_concat]

/-- A record is put in if all records before it have other paths. -/
theorem fst_insertAll (records : List FileStats) :
    (empty.insertAll records).1 =
      records.mapIdx fun position record => (records.take position).all (·.path != record.path) := by
  induction records using List.reverseRecOn with
  | nil => rfl
  | append_singleton records record ih =>
    -- What comes later does not change the records before a position.
    have earlier : (records.mapIdx fun position other => (records.take position).all (·.path != other.path)) =
        records.mapIdx fun position other => ((records ++ [record]).take position).all (·.path != other.path) := by
      apply List.ext_getElem (by simp)
      intro position inside _
      have within : position ≤ records.length := by
        rw [List.length_mapIdx] at inside
        omega
      rw [List.getElem_mapIdx, List.getElem_mapIdx, List.take_append_of_le_length within]
    rw [insertAll_append, snd_insertAll, insertAll_singleton, ih, earlier, List.mapIdx_concat, mentions_ofRecords,
      List.take_left, List.not_any_eq_all_not]
    rfl

theorem toList_foldl_insert (records : List FileStats) (table : StatsTable) :
    (records.foldl insert table).toList = table.toList ++
      (records.filter fun record => !table.mentions record.path).eraseDupsBy (·.path == ·.path) := by
  -- An insertion moves a record from the list into the table, which then keeps out what has the same path.
  induction records generalizing table with
  | nil => simp
  | cons record rest ih =>
    rw [List.foldl_cons, ih, toList_insert, List.filter_cons]
    cases known : table.mentions record.path with
    | true => simp [insert_of_mentions known]
    | false =>
      have others : (rest.filter fun other => !(table.insert record).mentions other.path) =
          (rest.filter fun other => !table.mentions other.path).filter
            fun other => (other.path == record.path) = false := by
        rw [List.filter_filter]
        apply List.filter_congr
        intro other _
        rw [mentions_insert, Bool.not_or, Bool.and_comm, Bool.beq_comm, Bool.decide_eq_false]
      simp only [Bool.not_false, Bool.false_eq_true, if_true, if_false, others, List.eraseDupsBy_cons, List.append_assoc,
        List.singleton_append]

theorem toList_ofRecords_eq (records : List FileStats) :
    (ofRecords records).toList = records.eraseDupsBy (·.path == ·.path) := by
  rw [ofRecords, toList_foldl_insert]
  simp [empty, toList, mentions]

namespace Consistent

variable {table : StatsTable}

theorem get?_insert (consistent : Consistent table) (record : FileStats) (path : String) :
    (table.insert record).get? path = (table.get? path).or ([record].find? (·.path == path)) := by
  by_cases known : table.mentions record.path = true
  · rw [insert_of_mentions known]
    by_cases same : record.path = path
    · subst same
      obtain ⟨first, stored, path⟩ := List.mem_map.mp ((consistent.mentions_iff record.path).mp known)
      rw [consistent.get?_eq_some_iff.mpr ⟨stored, path⟩, Option.some_or]
    · simp [same]
  · -- Nothing has been stored under a new path, so that the appended record is found there.
    ext found
    rw [(consistent.insert record).get?_eq_some_iff, toList_insert, if_neg known, List.mem_append, List.mem_singleton,
      or_and_right, Option.or_eq_some_iff, consistent.get?_eq_some_iff]
    refine or_congr_right ⟨?_, ?_⟩
    · rintro ⟨rfl, rfl⟩
      refine ⟨Option.eq_none_iff_forall_ne_some.mpr ?_, by simp⟩
      intro other stored
      obtain ⟨member, same⟩ := consistent.get?_eq_some_iff.mp stored
      exact known ((consistent.mentions_iff _).mpr (List.mem_map.mpr ⟨other, member, same⟩))
    · rintro ⟨_, single⟩
      obtain rfl := List.mem_singleton.mp (List.mem_of_find?_eq_some single)
      exact ⟨rfl, by simpa using List.find?_some single⟩

end Consistent

theorem get?_ofRecords (records : List FileStats) (path : String) :
    (ofRecords records).get? path = records.find? (·.path == path) := by
  induction records using List.reverseRecOn with
  | nil => simp [ofRecords, empty, get?]
  | append_singleton records record ih =>
    rw [ofRecords_concat, (consistent_ofRecords records).get?_insert, ih, List.find?_append]

/-- What a run of insertions into an empty table has answered and led to: the first record of each path counts. -/
structure KeepsFirst (records : List FileStats) (answers : List Bool) (table : StatsTable) : Prop where
  index : ∀ (path : String) (position : Nat), table.index[path]? = some position ↔ table.paths[position]? = some path
  inRange : ∀ (path : String) (position : Nat), table.index[path]? = some position → position < table.records.size
  distinct : table.paths.Nodup
  answers : answers = records.mapIdx fun position record => (records.take position).all (·.path != record.path)
  found : ∀ path, table.get? path = records.find? (·.path == path)
  listed : table.toList = records.eraseDupsBy (·.path == ·.path)
  rebuilt : ofRecords table.toList = table

/-- After any part of a run the table has the first record of each path inserted so far, and the index leads to it. -/
theorem insertAll_keeps_first (before after : List FileStats) :
    empty.insertAll (before ++ after) =
      ((empty.insertAll before).1 ++ ((empty.insertAll before).2.insertAll after).1,
        ((empty.insertAll before).2.insertAll after).2) ∧
    KeepsFirst before (empty.insertAll before).1 (empty.insertAll before).2 := by
  refine ⟨insertAll_append empty before after, ?_⟩
  have consistent := consistent_ofRecords before
  rw [snd_insertAll]
  constructor
  case index => exact consistent.index
  case inRange =>
    intro path position stored
    have inside := (List.getElem?_eq_some_iff.mp ((consistent.index path position).mp stored)).1
    simpa [paths, toList] using inside
  case distinct => exact consistent.nodup_paths
  case answers => exact fst_insertAll before
  case found => exact get?_ofRecords before
  case listed => exact toList_ofRecords_eq before
  case rebuilt => exact consistent.rebuilt

end ChangeCoupling.StatsTable
