import ChangeCoupling.Proofs.MiningExactness

/-! How long the search goes on. A level with members needs a transaction with as many files as they have, so that the
loop is not entered more often than the largest transaction has files. The limit on the number of levels never ends
it. -/

namespace ChangeCoupling.Mining

/-- A run of the search from a level on, which ends by its levels alone: the sizes and levels with which the loop is
entered, one after the other, and what it finds. -/
inductive SearchRun (plan : Plan) (threshold chunk : Nat) (log : List Ids) :
    Nat → List Ids → List (Nat × List Ids) → List (Ids × Nat) → Prop where
  | done {size : Nat} {level : List Ids} (few : level.length < 2) : SearchRun plan threshold chunk log size level [] []
  | dry {size : Nat} {level : List Ids} (several : 2 ≤ level.length) (none : candidates level = []) :
      SearchRun plan threshold chunk log size level [(size, level)] []
  | next {size : Nat} {level : List Ids} {entered : List (Nat × List Ids)} {found : List (Ids × Nat)}
      (several : 2 ≤ level.length) (some : candidates level ≠ [])
      (rest : SearchRun plan threshold chunk log (size + 1)
        ((frequentCandidates plan threshold chunk size log (candidates level)).map (·.1)) entered found) :
      SearchRun plan threshold chunk log size level ((size, level) :: entered)
        (frequentCandidates plan threshold chunk size log (candidates level) ++ found)

namespace SearchRun

/-- A limit that is not below the length of the run does not end it. -/
theorem levels_eq {plan : Plan} {threshold chunk size : Nat} {log level : List Ids} {entered : List (Nat × List Ids)}
    {found : List (Ids × Nat)} (run : SearchRun plan threshold chunk log size level entered found) {limit : Nat}
    (enough : entered.length ≤ limit) : levels plan threshold chunk log limit size level = found := by
  induction run generalizing limit with
  | done few =>
    cases limit with
    | zero => rfl
    | succ limit => rw [levels, if_pos few]
  | dry several none =>
    obtain ⟨limit, rfl⟩ := Nat.exists_eq_add_of_le' enough
    simp [levels, Nat.not_lt.mpr several, none]
  | next several some rest ih =>
    rw [List.length_cons] at enough
    obtain ⟨limit, rfl⟩ : ∃ less, limit = less + 1 := ⟨limit - 1, by omega⟩
    rw [levels, if_neg (Nat.not_lt.mpr several)]
    dsimp only
    rw [if_neg (by simpa using some), ih (by omega)]

variable {log : List Transaction} {threshold : Nat} {names : List String}

/-- From an exact level the search comes to its end, through exact levels only. Each of them has larger members than the
one before, and no frequent itemset is larger than `largest`. -/
theorem exists_of_exactLevel {plan : Plan} (complete : plan.Complete) {chunk : Nat} (positive : 0 < chunk)
    (distinct : names.Nodup) {largest : Nat} (bounded : ∀ ids, Frequent log threshold names ids → ids.length ≤ largest)
    (steps : Nat) {size : Nat} {level : List Ids} (exact : ExactLevel log threshold names (size + 1) level)
    (near : largest ≤ size + steps) :
    ∃ entered found, SearchRun plan threshold chunk (encodeLog names log) (size + 2) level entered found ∧
      entered.length ≤ steps ∧ entered.map (·.1) = List.range' (size + 2) entered.length ∧
      ∀ entry ∈ entered, ExactLevel log threshold names (entry.1 - 1) entry.2 := by
  -- A step makes the members of the level larger by one, so that `largest - size` bounds the number of steps.
  induction steps generalizing size level with
  | zero =>
    have empty : level = [] := by
      apply List.eq_nil_iff_forall_not_mem.mpr
      intro ids member
      obtain ⟨frequent, length⟩ := (exact.mem_iff ids).mp member
      have := bounded ids frequent
      omega
    exact ⟨[], [], .done (by simp [empty]), Nat.le_refl _, rfl, by simp⟩
  | succ steps ih =>
    by_cases few : level.length < 2
    · exact ⟨[], [], .done few, Nat.zero_le _, rfl, by simp⟩
    have several := Nat.le_of_not_lt few
    by_cases none : candidates level = []
    · refine ⟨[(size + 2, level)], [], .dry several none, by simp, rfl, ?_⟩
      intro entry member
      obtain rfl := List.mem_singleton.mp member
      exact exact
    · have next := (frequentCandidates_exact complete positive distinct exact).level
      obtain ⟨entered, found, run, short, sizes, levels⟩ := ih next (by omega)
      refine ⟨(size + 2, level) :: entered, _, .next several none run, by simpa using short, ?_, ?_⟩
      · rw [List.map_cons, sizes, List.length_cons, List.range'_succ]
      · intro entry member
        rcases List.mem_cons.mp member with rfl | later
        · exact exact
        · exact levels entry later

end SearchRun

/-- An exact level holds each frequent set of files of its size, by the numbers of the files. -/
theorem ExactLevel.exists_mem_iff {log : List Transaction} {threshold : Nat} {files : List (String × Nat)}
    (ranking : Ranking log threshold files) {size : Nat} {level : List Ids}
    (exact : ExactLevel log threshold (files.map Prod.fst) size level) {set : Finset String} (card : set.card = size) :
    (∃ ids ∈ level, (decode (files.map Prod.fst) ids).toFinset = set) ↔ threshold ≤ coverage log set := by
  constructor
  · rintro ⟨ids, member, rfl⟩
    exact ((exact.mem_iff ids).mp member).1.enough
  · intro enough
    obtain ⟨items, ranked, rfl⟩ := exists_ranked log set
    obtain ⟨ids, frequent, rfl⟩ := ranking.exists_decode ranked enough
    refine ⟨ids, (exact.mem_iff ids).mpr ⟨frequent, ?_⟩, rfl⟩
    rw [← card, List.toFinset_card_of_nodup (ranked_nodup ranked), decode, List.length_map]

theorem map_fst_singles (files : List (String × Nat)) :
    (singles files).map (·.1) = (List.range files.length).map ([·]) := by
  rw [singles, List.map_map, List.range_eq_range', ← List.zipIdx_map_snd 0 files, List.map_map]
  rfl

/-- The search of a log comes to its end by itself, under any limit that leaves it the time, and what it finds is
reported behind the single files. Its loop is entered for one size after the other, from two on, and not more often than
the largest transaction has files. Whenever it is entered for a size, the level holds the frequent sets with one file
less, and only these, as increasing lists of numbers of frequent files, in lexicographic order. -/
theorem search_bounded {plan : Plan} (complete : plan.Complete) {chunk : Nat} (positive : 1 ≤ chunk) {threshold : Nat}
    (atLeastOne : 1 ≤ threshold) (log : List Transaction) :
    ∃ files entered found, frequentFiles threshold (countFiles plan chunk log) = files ∧ (files.map Prod.fst).Nodup ∧
      (∀ file, file ∈ files.map Prod.fst ↔ threshold ≤ coverage log {file}) ∧
      SearchRun plan threshold chunk (encodeLog (files.map Prod.fst) log) 2 ((List.range files.length).map ([·]))
        entered found ∧
      (∀ limit, entered.length ≤ limit → levels plan threshold chunk (encodeLog (files.map Prod.fst) log) limit 2
        ((List.range files.length).map ([·])) = found) ∧
      mineCounted plan threshold chunk log =
        (singles files ++ found).map (fun entry => ⟨decode (files.map Prod.fst) entry.1, entry.2⟩) ∧
      entered.length ≤ longest log ∧ entered.map (·.1) = List.range' 2 entered.length ∧
      ∀ size level, (size, level) ∈ entered →
        level.Pairwise (· < ·) ∧
        (∀ ids ∈ level, ids.Pairwise (· < ·) ∧ ids.length = size - 1 ∧ ∀ id ∈ ids, id < files.length) ∧
        ∀ set : Finset String, set.card = size - 1 →
          ((∃ ids ∈ level, (decode (files.map Prod.fst) ids).toFinset = set) ↔ threshold ≤ coverage log set) := by
  have ranking := ranking_frequentFiles complete positive log atLeastOne
  generalize counted : frequentFiles threshold (countFiles plan chunk log) = files at ranking
  obtain ⟨entered, found, run, short, sizes, levels⟩ := SearchRun.exists_of_exactLevel complete positive ranking.nodup
    (fun ids => ranking.length_le_longest atLeastOne) (longest log) ranking.singles_exact.level (Nat.le_add_left _ _)
  have reported := mineCounted_eq complete positive log atLeastOne counted
  rw [foundCounts, run.levels_eq short] at reported
  rw [map_fst_singles] at run
  refine ⟨files, entered, found, rfl, ranking.nodup, ranking.mem_names, run, fun _ => run.levels_eq, reported, short,
    sizes, ?_⟩
  intro size level member
  have exact : ExactLevel log threshold (files.map Prod.fst) (size - 1) level := levels (size, level) member
  refine ⟨exact.sorted, ?_, fun set card => exact.exists_mem_iff ranking card⟩
  intro ids inside
  obtain ⟨frequent, length⟩ := (exact.mem_iff ids).mp inside
  exact ⟨frequent.increasing, length, fun id idMember => by simpa using frequent.inRange id idMember⟩

/-- Two files that never change together: the loop is entered once, as often as the largest transaction has files. -/
theorem search_bounded_apart :
    longest ([["core"], ["docs"]].map Transaction.ofFiles) = 1 ∧
      ∃ files entered found,
        frequentFiles 1 (countFiles (fun _ count => Gather.inOrder count) 1
          ([["core"], ["docs"]].map Transaction.ofFiles)) = files ∧
        SearchRun (fun _ count => Gather.inOrder count) 1 1
          (encodeLog (files.map Prod.fst) ([["core"], ["docs"]].map Transaction.ofFiles)) 2
          ((List.range files.length).map ([·])) entered found ∧
        entered.length = 1 := by
  have largest : longest ([["core"], ["docs"]].map Transaction.ofFiles) = 1 := by decide +kernel
  obtain ⟨files, entered, found, counted, _, names, run, _, _, short, _⟩ :=
    @search_bounded (fun _ count => Gather.inOrder count) (fun _ => Gather.inOrder_covers) 1 (by decide) 1 (by decide)
      ([["core"], ["docs"]].map Transaction.ofFiles)
  refine ⟨largest, files, entered, found, counted, run, ?_⟩
  rw [largest] at short
  have both : ["core", "docs"] ⊆ files.map Prod.fst := by
    intro file member
    rcases List.mem_cons.mp member with rfl | other
    · exact (names "core").mpr (by decide +kernel)
    · obtain rfl := List.mem_singleton.mp other
      exact (names "docs").mpr (by decide +kernel)
  have several : 2 ≤ files.length := by simpa using (List.subperm_of_subset (by decide) both).length_le
  cases run with
  | done few =>
    rw [List.length_map, List.length_range] at few
    omega
  | dry => rfl
  | next =>
    rw [List.length_cons] at short ⊢
    omega

end ChangeCoupling.Mining
