import ChangeCoupling.Proofs.LevelSearch
import Mathlib.Data.Finset.Card

/-! What mining finds. The result is determined by how many transactions contain each set of files: it lists every
set that enough of them contain, its files by their ranks, smaller sets first. -/

namespace ChangeCoupling.Mining

/-- Smaller itemsets come first, and those of one size go by the ranks of their files. -/
def ListedBefore (log : List Transaction) (first second : Itemset) : Prop :=
  first.size < second.size ∨ first.size = second.size ∧ List.Lex (RanksBefore log) first.items second.items

theorem ListedBefore.asymm {log : List Transaction} {first second : Itemset} (before : ListedBefore log first second) :
    ¬ ListedBefore log second first := by
  rintro (smaller' | ⟨same', less'⟩) <;> rcases before with smaller | ⟨same, less⟩
  · omega
  · omega
  · omega
  · exact List.lex_asymm RanksBefore.asymm less less'

/-- The sets of files that enough transactions contain, each once and with the number of these transactions. -/
structure Mined (log : List Transaction) (threshold : Nat) (found : List Itemset) : Prop where
  sorted : found.Pairwise (ListedBefore log)
  mem_iff : ∀ itemset, itemset ∈ found ↔ itemset.items ≠ [] ∧ itemset.items.Pairwise (RanksBefore log) ∧
    itemset.support = coverage log itemset.items.toFinset ∧ threshold ≤ itemset.support

theorem Mined.nodup {log : List Transaction} {threshold : Nat} {found : List Itemset}
    (mined : Mined log threshold found) : found.Nodup :=
  nodup_of_pairwise (fun _ before => before.asymm before) mined.sorted

/-- Nothing about the result is left open. -/
theorem Mined.unique {log : List Transaction} {threshold : Nat} {found found' : List Itemset}
    (mined : Mined log threshold found) (mined' : Mined log threshold found') : found = found' := by
  apply eq_of_pairwise_of_mem_iff (fun _ _ => ListedBefore.asymm) mined.sorted mined'.sorted
  intro itemset
  rw [mined.mem_iff, mined'.mem_iff]

variable {log : List Transaction} {threshold : Nat} {files : List (String × Nat)}

theorem ranked_nodup {items : List String} (ranked : items.Pairwise (RanksBefore log)) : items.Nodup :=
  nodup_of_pairwise RanksBefore.irrefl ranked

/-- The first level: every frequent file as a set of its own. -/
def singles (files : List (String × Nat)) : List (Ids × Nat) :=
  files.zipIdx.map fun ((_, count), number) => ([number], count)

namespace Ranking

theorem nodup (ranking : Ranking log threshold files) : (files.map Prod.fst).Nodup := ranked_nodup ranking.sorted

theorem mem_names (ranking : Ranking log threshold files) (file : String) :
    file ∈ files.map Prod.fst ↔ threshold ≤ coverage log {file} := by
  constructor
  · intro member
    obtain ⟨⟨_, count⟩, entry, rfl⟩ := List.mem_map.mp member
    obtain ⟨rfl, enough⟩ := (ranking.mem_iff _ _).mp entry
    exact enough
  · intro enough
    exact List.mem_map.mpr ⟨_, (ranking.mem_iff file _).mpr ⟨rfl, enough⟩, rfl⟩

theorem before_of_lt (ranking : Ranking log threshold files) {low high : Nat} (less : low < high)
    (inRange : high < (files.map Prod.fst).length) :
    RanksBefore log ((files.map Prod.fst).getD low "") ((files.map Prod.fst).getD high "") := by
  have lowInRange := less.trans inRange
  have before := List.pairwise_iff_getElem.mp ranking.sorted low high lowInRange inRange less
  rwa [← List.getElem_eq_getD (h := lowInRange) "", ← List.getElem_eq_getD (h := inRange) ""]

theorem decode_sorted (ranking : Ranking log threshold files) {ids : Ids}
    (frequent : Frequent log threshold (files.map Prod.fst) ids) :
    (decode (files.map Prod.fst) ids).Pairwise (RanksBefore log) := by
  rw [decode, List.pairwise_map]
  refine frequent.increasing.imp_of_mem ?_
  intro low high _ highMember less
  exact ranking.before_of_lt less (frequent.inRange high highMember)

/-- Comparing numbers compares files. -/
theorem decode_lex (ranking : Ranking log threshold files) {first second : Ids}
    (firstInRange : ∀ id ∈ first, id < (files.map Prod.fst).length)
    (secondInRange : ∀ id ∈ second, id < (files.map Prod.fst).length) (less : first < second) :
    List.Lex (RanksBefore log) (decode (files.map Prod.fst) first) (decode (files.map Prod.fst) second) := by
  induction first generalizing second with
  | nil =>
    cases second with
    | nil => exact False.elim (List.lt_irrefl _ less)
    | cons id second => exact .nil
  | cons id first ih =>
    cases second with
    | nil => simp at less
    | cons id' second =>
      rcases List.cons_lt_cons_iff.mp less with smaller | ⟨rfl, rest⟩
      · exact .rel (ranking.before_of_lt smaller (secondInRange id' List.mem_cons_self))
      · exact .cons (ih (fun other member => firstInRange other (by simp [member]))
          (fun other member => secondInRange other (by simp [member])) rest)

theorem exists_decode (ranking : Ranking log threshold files) {items : List String}
    (ranked : items.Pairwise (RanksBefore log)) (enough : threshold ≤ coverage log items.toFinset) :
    ∃ ids, Frequent log threshold (files.map Prod.fst) ids ∧ decode (files.map Prod.fst) ids = items := by
  have within : items ⊆ files.map Prod.fst := by
    intro file member
    refine (ranking.mem_names file).mpr (enough.trans (coverage_anti log ?_))
    simpa using member
  have antisymm : Std.Antisymm (RanksBefore log) := ⟨fun _ _ before after => False.elim (before.asymm after)⟩
  have sublist : items.Sublist (files.map Prod.fst) :=
    List.sublist_of_subperm_of_pairwise (List.subperm_of_subset (ranked_nodup ranked) within) ranked ranking.sorted
  obtain ⟨positions, same, increasing⟩ := List.sublist_eq_map_getElem sublist
  have decoded : decode (files.map Prod.fst) (positions.map Fin.val) = items := by
    rw [same, decode, List.map_map]
    apply List.map_congr_left
    intro position _
    exact (List.getElem_eq_getD (h := position.isLt) "").symm
  refine ⟨positions.map Fin.val, ⟨?_, ?_, by rwa [decoded]⟩, decoded⟩
  · rw [List.pairwise_map]
    exact increasing.imp fun less => less
  · intro id member
    obtain ⟨position, _, rfl⟩ := List.mem_map.mp member
    exact position.isLt

theorem singles_exact (ranking : Ranking log threshold files) :
    ExactCounts log threshold (files.map Prod.fst) (· = 1) (singles files) := by
  unfold singles
  refine ⟨?_, ?_⟩
  · have increasing : (files.zipIdx.map Prod.snd).Pairwise (· < ·) := by
      rw [List.zipIdx_map_snd]
      exact List.pairwise_lt_range'
    rw [List.pairwise_map] at increasing ⊢
    exact increasing.imp fun less => .inr ⟨rfl, List.cons_lt_cons_iff.mpr (.inl less)⟩
  · intro ids count
    have single (file : String) (count number : Nat) (known : files[number]? = some (file, count)) :
        decode (files.map Prod.fst) [number] = [file] := by simp [decode, known]
    simp only [List.mem_map, Prod.exists, List.mem_zipIdx_iff_getElem?, Prod.mk.injEq]
    constructor
    · rintro ⟨file, count, number, known, rfl, rfl⟩
      obtain ⟨inside, value⟩ := List.getElem?_eq_some_iff.mp known
      obtain ⟨counted, enough⟩ := (ranking.mem_iff file count).mp (List.mem_of_getElem? known)
      have counted' : count = coverage log (decode (files.map Prod.fst) [number]).toFinset := by
        simpa [single file count number known] using counted
      exact ⟨⟨⟨List.pairwise_singleton _ _, by simpa using inside, counted' ▸ enough⟩, counted'⟩, rfl⟩
    · rintro ⟨⟨frequent, rfl⟩, length⟩
      obtain ⟨number, rfl⟩ := List.length_eq_one_iff.mp length
      have inside : number < files.length := by simpa using frequent.inRange number List.mem_cons_self
      have known : files[number]? = some (files[number].1, files[number].2) := List.getElem?_eq_getElem inside
      have counted := ((ranking.mem_iff _ _).mp (List.mem_of_getElem? known)).1
      refine ⟨files[number].1, files[number].2, number, known, rfl, ?_⟩
      simpa [single _ _ number known] using counted

theorem length_le_longest (ranking : Ranking log threshold files) (atLeastOne : 1 ≤ threshold) {ids : Ids}
    (frequent : Frequent log threshold (files.map Prod.fst) ids) : ids.length ≤ longest log := by
  obtain ⟨transaction, member, contained⟩ := List.countP_pos_iff.mp (atLeastOne.trans frequent.enough)
  rw [decide_eq_true_iff] at contained
  calc ids.length = (decode (files.map Prod.fst) ids).length := by simp [decode]
    _ = (decode (files.map Prod.fst) ids).toFinset.card :=
      (List.toFinset_card_of_nodup (ranked_nodup (ranking.decode_sorted frequent))).symm
    _ ≤ transaction.fileSet.card := Finset.card_le_card contained
    _ ≤ transaction.size := List.toFinset_card_le _
    _ ≤ longest log := (foldl_max_spec Transaction.size log 0).1 transaction member

/-- Written out as files, the itemsets that were found by numbers are what is to be found. -/
theorem mined_decode (ranking : Ranking log threshold files) {found : List (Ids × Nat)}
    (exact : ExactCounts log threshold (files.map Prod.fst) (1 ≤ ·) found) :
    Mined log threshold (found.map fun entry => ⟨decode (files.map Prod.fst) entry.1, entry.2⟩) := by
  refine ⟨?_, ?_⟩
  · rw [List.pairwise_map]
    refine exact.sorted.imp_of_mem ?_
    rintro ⟨first, firstCount⟩ ⟨second, secondCount⟩ firstMember secondMember before
    obtain ⟨⟨firstFrequent, _⟩, _⟩ := (exact.mem_iff _ _).mp firstMember
    obtain ⟨⟨secondFrequent, _⟩, _⟩ := (exact.mem_iff _ _).mp secondMember
    rcases before with shorter | ⟨same, less⟩
    · exact .inl (by simpa [Itemset.size, decode] using shorter)
    · exact .inr ⟨by simpa [Itemset.size, decode] using same,
        ranking.decode_lex firstFrequent.inRange secondFrequent.inRange less⟩
  · rintro ⟨items, support⟩
    constructor
    · intro member
      obtain ⟨⟨ids, count⟩, entry, same⟩ := List.mem_map.mp member
      cases same
      obtain ⟨⟨frequent, rfl⟩, length⟩ := (exact.mem_iff _ _).mp entry
      refine ⟨?_, ranking.decode_sorted frequent, rfl, frequent.enough⟩
      exact List.ne_nil_of_length_pos (by rw [decode, List.length_map]; exact length)
    · rintro ⟨nonempty, ranked, counted, enough⟩
      dsimp only at nonempty ranked counted enough
      subst counted
      obtain ⟨ids, frequent, rfl⟩ := ranking.exists_decode ranked enough
      refine List.mem_map.mpr ⟨(ids, _), (exact.mem_iff _ _).mpr ⟨⟨frequent, rfl⟩, ?_⟩, rfl⟩
      have length := List.length_pos_iff.mpr nonempty
      rw [decode, List.length_map] at length
      exact length

end Ranking

/-- The levels come in the order that is asked for, so that sorting changes nothing. -/
theorem ExactCounts.mergeSort_eq {names : List String} {sizes : Nat → Prop} {found : List (Ids × Nat)}
    (exact : ExactCounts log threshold names sizes found) : found.mergeSort idsPrecede = found := by
  apply List.mergeSort_of_pairwise
  refine exact.sorted.imp ?_
  intro first second before
  simp only [idsPrecede, Bool.or_eq_true, Bool.and_eq_true, decide_eq_true_eq, beq_iff_eq, Bool.not_eq_true',
    decide_eq_false_iff_not]
  rcases before with shorter | ⟨same, less⟩
  · exact .inl shorter
  · exact .inr ⟨same, List.lt_asymm less⟩

/-- What is found by numbers, level after level. -/
def foundCounts (plan : Plan) (threshold chunk : Nat) (log : List Transaction) (files : List (String × Nat)) :
    List (Ids × Nat) :=
  singles files ++ levels plan threshold chunk (encodeLog (files.map Prod.fst) log) (longest log) 2
    ((singles files).map (·.1))

theorem Ranking.foundCounts_exact (ranking : Ranking log threshold files) (atLeastOne : 1 ≤ threshold) {plan : Plan}
    (complete : plan.Complete) {chunk : Nat} (positive : 0 < chunk) :
    ExactCounts log threshold (files.map Prod.fst) (1 ≤ ·) (foundCounts plan threshold chunk log files) := by
  refine ranking.singles_exact.append (levels_exact complete positive ranking.nodup _ ranking.singles_exact.level ?_)
  intro ids frequent
  have := ranking.length_le_longest atLeastOne frequent
  omega

theorem mineCounted_eq {plan : Plan} (complete : plan.Complete) {chunk : Nat} (positive : 0 < chunk)
    (log : List Transaction) {threshold : Nat} (atLeastOne : 1 ≤ threshold) {files : List (String × Nat)}
    (counted : frequentFiles threshold (countFiles plan chunk log) = files) :
    mineCounted plan threshold chunk log =
      (foundCounts plan threshold chunk log files).map fun entry => ⟨decode (files.map Prod.fst) entry.1, entry.2⟩ := by
  have ranking := ranking_frequentFiles complete positive log atLeastOne
  rw [counted] at ranking
  have exact := ranking.foundCounts_exact atLeastOne complete positive
  unfold mineCounted
  simp only [counted]
  change ((foundCounts plan threshold chunk log files).mergeSort idsPrecede).map _ = _
  rw [exact.mergeSort_eq]
  simp [decode]

theorem mineCounted_mined {plan : Plan} (complete : plan.Complete) {chunk : Nat} (positive : 0 < chunk)
    (log : List Transaction) {threshold : Nat} (atLeastOne : 1 ≤ threshold) :
    Mined log threshold (mineCounted plan threshold chunk log) := by
  have ranking := ranking_frequentFiles complete positive log atLeastOne
  rw [mineCounted_eq complete positive log atLeastOne rfl]
  exact ranking.mined_decode (ranking.foundCounts_exact atLeastOne complete positive)

theorem one_le_minCount (options : Options) (transactions : Nat) : 1 ≤ options.minCount transactions :=
  Nat.le_max_left _ _

theorem mineUnder_mined {plan : Plan} (complete : plan.Complete) (options : Options) (log : List Transaction) :
    Mined log (options.minCount log.length) (mineUnder plan options log) := by
  unfold mineUnder
  split
  next empty =>
    obtain rfl := List.isEmpty_iff.mp empty
    refine ⟨List.Pairwise.nil, ?_⟩
    intro itemset
    simp only [List.not_mem_nil, false_iff]
    rintro ⟨_, _, counted, enough⟩
    have atLeastOne := (one_le_minCount options _).trans enough
    simp only [coverage, List.countP_nil] at counted
    omega
  next => exact mineCounted_mined complete (Nat.le_max_left _ _) log (one_le_minCount options log.length)

end ChangeCoupling.Mining
