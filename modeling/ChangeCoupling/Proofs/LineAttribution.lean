import ChangeCoupling.History.Delta
import ChangeCoupling.Proofs.Lists
import Mathlib.Algebra.BigOperators.Group.List.Basic
import Mathlib.Algebra.Ring.Nat
import Mathlib.Data.List.Count
import Mathlib.Data.List.Induction

/-! Where the lines of a difference go. The paths and the lines of the deltas are gone through apart from each other and
joined by path, and still every line of a delta with a path is counted once, for the path of its delta. -/

namespace ChangeCoupling.FileDelta

theorem path?_eq_some_iff {delta : FileDelta} {path : String} :
    delta.path? = some path ↔
      path ≠ "" ∧ (delta.newPath? = some path ∨ delta.newPath? = none ∧ delta.oldPath? = some path) := by
  rw [path?, Option.filter_eq_some_iff, Option.orElse_eq_orElse, Option.orElse_eq_or, Option.or_eq_some_iff, and_comm]
  simp

theorem toList_foldl_addPath (deltas : List FileDelta) :
    (deltas.foldl addPath #[]).toList = (deltas.filterMap path?).eraseDups := by
  induction deltas using List.reverseRecOn with
  | nil => rfl
  | append_singleton deltas delta ih =>
    rw [List.foldl_concat, List.filterMap_append, addPath]
    cases found : delta.path? with
    | none => simp [ih, found]
    | some path =>
      have known : path ∈ deltas.foldl addPath #[] ↔ path ∈ deltas.filterMap path? := by
        rw [← Array.mem_toList_iff, ih, List.mem_eraseDups]
      simp only [List.filterMap_cons, found, List.filterMap_nil, eraseDups_concat, Array.contains_iff_mem, known]
      split
      next => exact ih
      next => rw [Array.toList_push, ih]

/-- What happened to the lines of the deltas, each with the path that it counts for. -/
def entries (deltas : List FileDelta) : List (String × LineEvent) :=
  deltas.flatMap fun delta => delta.path?.toList.flatMap fun path => delta.events.map (path, ·)

def LineCounts.addEntry (counts : LineCounts) (entry : String × LineEvent) : LineCounts :=
  addEvent entry.1 counts entry.2

theorem foldl_add (deltas : List FileDelta) (counts : LineCounts) :
    deltas.foldl LineCounts.add counts = (entries deltas).foldl LineCounts.addEntry counts := by
  rw [entries, List.foldl_flatMap]
  congr 1
  funext counts delta
  rw [LineCounts.add]
  cases delta.path? with
  | none => rfl
  | some path =>
    simp only [Option.toList_some, List.flatMap_singleton, List.foldl_map]
    rfl

theorem getD_addEntry (counts : LineCounts) (entry : String × LineEvent) (path : String) :
    (counts.addEntry entry).getD path (0, 0) =
      ((counts.getD path (0, 0)).1 + [entry].count (path, .added),
        (counts.getD path (0, 0)).2 + [entry].count (path, .deleted)) := by
  obtain ⟨other, event⟩ := entry
  by_cases same : other = path
  · subst same
    cases event <;> simp [LineCounts.addEntry, LineCounts.addEvent]
  · cases event <;> simp [LineCounts.addEntry, LineCounts.addEvent, Std.HashMap.getD_insert, same]

theorem getD_foldl_addEntry (items : List (String × LineEvent)) (path : String) :
    (items.foldl LineCounts.addEntry ∅).getD path (0, 0) =
      (items.count (path, .added), items.count (path, .deleted)) := by
  induction items using List.reverseRecOn with
  | nil => simp
  | append_singleton items entry ih => rw [List.foldl_concat, getD_addEntry, ih, List.count_append, List.count_append]

theorem changes_eq (deltas : List FileDelta) :
    changes deltas = (deltas.filterMap path?).eraseDups.map fun path =>
      ⟨path, (entries deltas).count (path, .added), (entries deltas).count (path, .deleted)⟩ := by
  simp only [changes, toList_foldl_addPath, foldl_add, getD_foldl_addEntry]

/-- What happened to the lines of the deltas with the given path. -/
def linesOf (path : String) (deltas : List FileDelta) : List LineEvent :=
  (deltas.filter (·.path? = some path)).flatMap events

/-- What happened to the lines of the deltas that have a path. -/
def linesWithPath (deltas : List FileDelta) : List LineEvent := (deltas.filter (·.path?.isSome)).flatMap events

theorem entries_cons (delta : FileDelta) (rest : List FileDelta) :
    entries (delta :: rest) = (delta.path?.toList.flatMap fun path => delta.events.map (path, ·)) ++ entries rest :=
  List.flatMap_cons

theorem count_entries (path : String) (event : LineEvent) (deltas : List FileDelta) :
    (entries deltas).count (path, event) = (linesOf path deltas).count event := by
  induction deltas with
  | nil => rfl
  | cons delta rest ih =>
    rw [entries_cons, List.count_append, ih]
    cases found : delta.path? with
    | none => simp [linesOf, found]
    | some other =>
      by_cases same : other = path
      · subst same
        simp [linesOf, found, List.count_map_of_injective _ _ (Prod.mk_right_injective other)]
      · simp [linesOf, found, same, List.count_eq_zero]

theorem map_snd_entries (deltas : List FileDelta) : (entries deltas).map Prod.snd = linesWithPath deltas := by
  induction deltas with
  | nil => rfl
  | cons delta rest ih =>
    rw [entries_cons, List.map_append, ih]
    cases found : delta.path? with
    | none => simp [linesWithPath, found]
    | some path => simp [linesWithPath, found, Function.comp_def]

private theorem sum_map_beq (items : List String) (item : String) :
    (items.map fun other => if item == other then 1 else 0).sum = items.count item := by
  induction items with
  | nil => rfl
  | cons other rest ih => rw [List.map_cons, List.sum_cons, ih, List.count_cons, Bool.beq_comm, Nat.add_comm]

/-- Counting the entries path by path counts all of them. -/
theorem sum_count_paths {paths : List String} (distinct : paths.Nodup) (event : LineEvent)
    {items : List (String × LineEvent)} (listed : ∀ entry ∈ items, entry.1 ∈ paths) :
    (paths.map fun path => items.count (path, event)).sum = (items.map Prod.snd).count event := by
  induction items with
  | nil => simp
  | cons entry rest ih =>
    -- The entry counts for its own path only, and that path is listed once.
    have first : (paths.map fun path => if entry == (path, event) then 1 else 0).sum =
        if entry.2 == event then 1 else 0 := by
      obtain ⟨path, kind⟩ := entry
      by_cases same : kind = event
      · have once := List.count_eq_one_of_mem distinct (listed (path, kind) List.mem_cons_self)
        simpa [same, ← sum_map_beq] using once
      · simp [same]
    simp only [List.count_cons, List.map_cons, List.sum_map_add, first,
      ih fun other member => listed other (List.mem_cons_of_mem _ member)]

theorem fst_mem_of_mem_entries {deltas : List FileDelta} {entry : String × LineEvent}
    (member : entry ∈ entries deltas) : entry.1 ∈ (deltas.filterMap path?).eraseDups := by
  simp only [entries, List.mem_flatMap, Option.mem_toList, List.mem_map] at member
  obtain ⟨delta, inside, path, found, event, _, rfl⟩ := member
  exact List.mem_eraseDups.mpr (List.mem_filterMap.mpr ⟨delta, inside, found⟩)

theorem sum_count_entries (deltas : List FileDelta) (event : LineEvent) :
    ((deltas.filterMap path?).eraseDups.map fun path => (entries deltas).count (path, event)).sum =
      (linesWithPath deltas).count event := by
  rw [← map_snd_entries]
  exact sum_count_paths (nodup_eraseDups _) event fun _ => fst_mem_of_mem_entries

/-- Every path of a delta is listed once, in the order of the first deltas with it, with the lines of all its deltas, so
that over all paths no line is lost and none is counted twice. -/
theorem changes_attribute_lines (deltas : List FileDelta) :
    (∀ delta ∈ deltas, ∀ path, delta.path? = some path ↔
      path ≠ "" ∧ (delta.newPath? = some path ∨ delta.newPath? = none ∧ delta.oldPath? = some path)) ∧
    (changes deltas).map FileChange.path = (deltas.filterMap path?).eraseDups ∧
    ((changes deltas).map FileChange.path).Nodup ∧
    (∀ change ∈ changes deltas, change.path ≠ "" ∧
      change.added = (linesOf change.path deltas).count .added ∧
      change.deleted = (linesOf change.path deltas).count .deleted) ∧
    ((changes deltas).map FileChange.added).sum = (linesWithPath deltas).count .added ∧
    ((changes deltas).map FileChange.deleted).sum = (linesWithPath deltas).count .deleted := by
  have paths : (changes deltas).map FileChange.path = (deltas.filterMap path?).eraseDups := by
    rw [changes_eq, List.map_map]
    exact List.map_id _
  refine ⟨fun delta _ path => path?_eq_some_iff, paths, paths ▸ nodup_eraseDups _, ?_, ?_, ?_⟩
  · intro change member
    rw [changes_eq] at member
    obtain ⟨path, listed, rfl⟩ := List.mem_map.mp member
    obtain ⟨delta, _, found⟩ := List.mem_filterMap.mp (List.mem_eraseDups.mp listed)
    exact ⟨(path?_eq_some_iff.mp found).1, count_entries path .added deltas, count_entries path .deleted deltas⟩
  · rw [changes_eq, List.map_map, ← sum_count_entries]
    rfl
  · rw [changes_eq, List.map_map, ← sum_count_entries]
    rfl

/-- One file is deleted and another one takes its place, a file that is not text is renamed, and the lines of a delta
with an empty path are not counted. -/
theorem changes_attribute_lines_replaced :
    let deltas : List FileDelta := [⟨none, some "core", [.deleted, .deleted]⟩, ⟨some "logo", some "icon", []⟩,
      ⟨some "core", none, [.added]⟩, ⟨some "", some "docs", [.added]⟩]
    (changes deltas).map FileChange.path = ["core", "logo"] ∧
      (∀ change ∈ changes deltas, change.path = "core" → change.added = 1 ∧ change.deleted = 2) ∧
      ((changes deltas).map FileChange.added).sum = 1 ∧ ((changes deltas).map FileChange.deleted).sum = 2 := by
  intro deltas
  obtain ⟨_, paths, _, each, added, deleted⟩ := changes_attribute_lines deltas
  refine ⟨paths, ?_, added, deleted⟩
  intro change member same
  obtain ⟨_, changeAdded, changeDeleted⟩ := each change member
  rw [same] at changeAdded changeDeleted
  exact ⟨changeAdded, changeDeleted⟩

end ChangeCoupling.FileDelta
