import ChangeCoupling.Proofs.Shares
import ChangeCoupling.Proofs.SubsetEnumeration
import ChangeCoupling.Scoring.Best

/-! The search for the best match. What it visits is a list of matches, of which it keeps the first best one. With
any division that obeys the laws of shares this is the first complete match, if there is one. -/

namespace ChangeCoupling

namespace Overlap

theorem mem_positions (consequent : List String) (reference : Reference) (position : Nat) :
    position ∈ positions consequent reference ↔ ∃ file ∈ reference, consequent[position]? = some file := by
  simp only [positions, List.mem_map, List.mem_filter, List.contains_iff_mem, Prod.exists, List.mem_zipIdx_iff_getElem?]
  constructor
  · rintro ⟨file, other, ⟨known, member⟩, rfl⟩
    exact ⟨file, member, known⟩
  · rintro ⟨file, member, known⟩
    exact ⟨file, position, ⟨known, member⟩, rfl⟩

theorem positions_sublist (consequent : List String) (reference : Reference) :
    (positions consequent reference).Sublist (List.range consequent.length) := by
  have all : consequent.zipIdx.map Prod.snd = List.range consequent.length := by
    rw [List.zipIdx_map_snd, List.range_eq_range']
  rw [← all]
  exact List.filter_sublist.map _

theorem positions_increasing (consequent : List String) (reference : Reference) :
    (positions consequent reference).Pairwise (· < ·) :=
  List.pairwise_lt_range.sublist (positions_sublist consequent reference)

theorem positions_inRange (consequent : List String) (reference : Reference) :
    ∀ position ∈ positions consequent reference, position < consequent.length :=
  fun _ member => List.mem_range.mp ((positions_sublist consequent reference).subset member)

def ofPositions (consequent : List String) (chosen : List Nat) (reference : Reference) : Overlap :=
  ⟨chosen.countP ((positions consequent reference).contains ·), chosen.length, reference.length⟩

/-- A match of at least one file in which every proposed file is right. -/
def Complete (overlap : Overlap) : Prop := 0 < overlap.matched ∧ overlap.matched = overlap.proposed

def MorePrecise [LT α] (share : Nat → Nat → α) (first second : Overlap) : Prop :=
  share second.matched second.proposed < share first.matched first.proposed

instance [LT α] [DecidableLT α] (share : Nat → Nat → α) : DecidableRel (MorePrecise share) :=
  fun first second => inferInstanceAs (Decidable
    (share second.matched second.proposed < share first.matched first.proposed))

theorem beats_iff (first second : Overlap) : first.beats second = true ↔ MorePrecise exactShare first second := by
  have fraction (overlap : Overlap) : 0 < overlap.precision.2 ∧
      exactShare overlap.matched overlap.proposed = overlap.precision.1 / overlap.precision.2 := by
    unfold precision exactShare
    split
    next none => simp [none]
    next some => exact ⟨Nat.pos_of_ne_zero some, rfl⟩
  obtain ⟨positive, share⟩ := fraction first
  obtain ⟨positive', share'⟩ := fraction second
  rw [beats, decide_eq_true_eq, MorePrecise, share, share',
    div_lt_div_iff₀ (by exact_mod_cast positive') (by exact_mod_cast positive)]
  exact_mod_cast Iff.rfl

end Overlap

namespace Scoring

open Mining (combinations mem_combinations combinations_sorted)

/-- The subsets of the positions, the larger ones first and those of one size in lexicographic order. -/
def subsets (n : Nat) : List (List Nat) :=
  (List.range (n + 1)).reverse.flatMap fun size => combinations size (List.range n)

/-- The matches that the search looks at, in their order. -/
def visits (consequent : List String) (references : List Reference) : List Overlap :=
  (subsets consequent.length).flatMap fun chosen => references.map (Overlap.ofPositions consequent chosen)

def keep (better : Overlap → Overlap → Prop) [DecidableRel better] (best : Option Overlap) (overlap : Overlap) :
    Option Overlap :=
  match best with
  | none => some overlap
  | some current => if better overlap current then some overlap else some current

def search (better : Overlap → Overlap → Prop) [DecidableRel better] (overlaps : List Overlap) : Option Overlap :=
  overlaps.foldl (keep better) none

private theorem keepBest_eq : keepBest = keep (Overlap.MorePrecise exactShare) := by
  funext best overlap
  cases best with
  | none => rfl
  | some current => simp only [keepBest, keep, Overlap.beats_iff]

private theorem tryOut_eq (consequent : List String) (references : List Reference) {size : Nat} {chosen : List Nat}
    (member : chosen ∈ combinations size (List.range consequent.length)) (best : Option Overlap) :
    tryOut consequent.length size
        (references.map (referenceMask (Subset.weights consequent.length) consequent)) best
        (Subset.mask (Subset.weights consequent.length) chosen.reverse) =
      (references.map (Overlap.ofPositions consequent chosen)).foldl
        (keep (Overlap.MorePrecise exactShare)) best := by
  obtain ⟨within, length⟩ := (mem_combinations _ _ _).mp member
  have increasing := List.pairwise_lt_range.sublist within
  have inRange : ∀ position ∈ chosen, position < consequent.length :=
    fun position inside => List.mem_range.mp (within.subset inside)
  rw [tryOut, List.foldl_map, List.foldl_map, keepBest_eq]
  congr 1
  funext best reference
  have matched := Subset.ones_mask_and_mask increasing inRange (Overlap.positions_increasing consequent reference)
    (Overlap.positions_inRange consequent reference)
  rw [referenceMask, matched, ← length]
  rfl

/-- The masks are only a way to visit these matches. -/
theorem bestByEnumeration_eq_search (consequent : List String) (references : List Reference) :
    bestByEnumeration consequent references =
      (search (Overlap.MorePrecise exactShare) (visits consequent references)).getD ⟨0, consequent.length, 0⟩ := by
  unfold bestByEnumeration search visits subsets
  dsimp only
  rw [List.foldl_flatMap, List.foldl_flatMap]
  congr 2
  funext best size
  rw [Subset.fold_eq]
  apply List.foldl_ext
  intro best chosen member
  exact tryOut_eq consequent references member best

/-- The first best item of a list: it is better than those before it, and none of those after it is better. -/
def FirstBest (better : α → α → Prop) (items : List α) (winner : α) : Prop :=
  ∃ before after, items = before ++ winner :: after ∧ (∀ item ∈ before, better winner item) ∧
    ∀ item ∈ after, ¬ better item winner

namespace FirstBest
variable {better : α → α → Prop} {items : List α} {winner : α}

theorem mem (firstBest : FirstBest better items winner) : winner ∈ items := by
  obtain ⟨before, after, rfl, _, _⟩ := firstBest
  simp

theorem congr (firstBest : FirstBest better items winner) {better' : α → α → Prop}
    (same : ∀ first ∈ items, ∀ second ∈ items, better' first second ↔ better first second) :
    FirstBest better' items winner := by
  obtain ⟨before, after, rfl, worse, notBetter⟩ := firstBest
  refine ⟨before, after, rfl, fun item member => ?_, fun item member => ?_⟩
  · exact (same winner (by simp) item (by simp [member])).mpr (worse item member)
  · exact mt (same item (by simp [member]) winner (by simp)).mp (notBetter item member)

theorem not_better (firstBest : FirstBest better items winner)
    (asymm : ∀ first second, better first second → ¬ better second first) : ∀ item ∈ items, ¬ better item winner := by
  obtain ⟨before, after, rfl, worse, notBetter⟩ := firstBest
  intro item member
  rcases List.mem_append.mp member with early | late
  · exact asymm winner item (worse item early)
  rcases List.mem_cons.mp late with rfl | late
  · exact fun self => asymm item item self self
  · exact notBetter item late

theorem cons (firstBest : FirstBest better items winner) {item : α} (worse : better winner item) :
    FirstBest better (item :: items) winner := by
  obtain ⟨before, after, rfl, worseBefore, notBetter⟩ := firstBest
  exact ⟨item :: before, after, rfl, List.forall_mem_cons.mpr ⟨worse, worseBefore⟩, notBetter⟩

theorem insert {first item : α} (firstBest : FirstBest better (first :: items) winner) (notBetter : ¬ better item first)
    (worse : better winner first → better winner item) : FirstBest better (first :: item :: items) winner := by
  obtain ⟨before, after, split, worseBefore, notBetterAfter⟩ := firstBest
  cases before with
  | nil =>
    obtain ⟨rfl, rfl⟩ := List.cons_eq_cons.mp split
    exact ⟨[], item :: items, rfl, by simp, List.forall_mem_cons.mpr ⟨notBetter, notBetterAfter⟩⟩
  | cons head before =>
    obtain ⟨rfl, rfl⟩ := List.cons_eq_cons.mp split
    obtain ⟨worseFirst, worseRest⟩ := List.forall_mem_cons.mp worseBefore
    refine ⟨first :: item :: before, after, rfl, ?_, notBetterAfter⟩
    exact List.forall_mem_cons.mpr ⟨worseFirst, List.forall_mem_cons.mpr ⟨worse worseFirst, worseRest⟩⟩

theorem of_map {f : α → β} {better : β → β → Prop} {winner : β} (firstBest : FirstBest better (items.map f) winner) :
    ∃ item, f item = winner ∧ FirstBest (fun first second => better (f first) (f second)) items item := by
  obtain ⟨before, after, split, worse, notBetter⟩ := firstBest
  obtain ⟨early, rest, rfl, rfl, fromWinner⟩ := List.map_eq_append_iff.mp split
  obtain ⟨item, late, rfl, rfl, rfl⟩ := List.map_eq_cons_iff.mp fromWinner
  refine ⟨item, rfl, early, late, rfl, fun other member => ?_, fun other member => ?_⟩
  · exact worse (f other) (List.mem_map_of_mem member)
  · exact notBetter (f other) (List.mem_map_of_mem member)

theorem of_filter {p : α → Bool} (firstBest : FirstBest better (items.filter p) winner)
    (rejected : ∀ item ∈ items, p item = false → better winner item ∧ ¬ better item winner) :
    FirstBest better items winner := by
  obtain ⟨before, after, split, worse, notBetter⟩ := firstBest
  obtain ⟨first, second, rfl, rfl, fromWinner⟩ := List.filter_eq_append_iff.mp split
  obtain ⟨between, late, rfl, skipped, _, rfl⟩ := List.filter_eq_cons_iff.mp fromWinner
  refine ⟨first ++ between, late, by simp, fun item member => ?_, fun item member => ?_⟩
  · rcases List.mem_append.mp member with early | early
    · cases accepted : p item with
      | false => exact (rejected item (by simp [early]) accepted).1
      | true => exact worse item (List.mem_filter.mpr ⟨early, accepted⟩)
    · exact (rejected item (by simp [early]) (by simpa using skipped item early)).1
  · cases accepted : p item with
    | false => exact (rejected item (by simp [member]) accepted).2
    | true => exact notBetter item (List.mem_filter.mpr ⟨member, accepted⟩)

end FirstBest

section
variable {better : Overlap → Overlap → Prop} [DecidableRel better]

private theorem mem_of_keep {overlaps : List Overlap} (best : Option Overlap) {kept : Overlap}
    (isKept : overlaps.foldl (keep better) best = some kept) : kept ∈ overlaps ∨ best = some kept := by
  induction overlaps generalizing best with
  | nil => exact .inr isKept
  | cons overlap rest ih =>
    rcases ih _ isKept with later | now
    · exact .inl (List.mem_cons_of_mem _ later)
    cases best with
    | none =>
      cases now
      exact .inl List.mem_cons_self
    | some current =>
      simp only [keep] at now
      split at now
      · cases now
        exact .inl List.mem_cons_self
      · exact .inr now

private theorem keep_best {winner : Overlap} {overlaps : List Overlap}
    (best : ∀ overlap ∈ overlaps, ¬ better overlap winner) :
    overlaps.foldl (keep better) (some winner) = some winner := by
  induction overlaps with
  | nil => rfl
  | cons overlap rest ih =>
    have step : keep better (some winner) overlap = some winner := if_neg (best overlap List.mem_cons_self)
    rw [List.foldl_cons, step]
    exact ih fun other member => best other (List.mem_cons_of_mem _ member)

theorem FirstBest.search_eq {overlaps : List Overlap} {winner : Overlap}
    (firstBest : FirstBest better overlaps winner) : search better overlaps = some winner := by
  obtain ⟨before, after, rfl, worse, notBetter⟩ := firstBest
  have found : keep better (before.foldl (keep better) none) winner = some winner := by
    cases kept : before.foldl (keep better) none with
    | none => rfl
    | some current =>
      rcases mem_of_keep none kept with member | impossible
      · exact if_pos (worse current member)
      · cases impossible
  rw [search, List.foldl_append, List.foldl_cons, found]
  exact keep_best notBetter

end

/-- Where subsets are searched through, reported shares keep apart what is complete, in part right and wrong. -/
theorem properShares_of_short {n : Nat} (known : n ≤ enumerationLimit ∨ ProperShares n) : ProperShares n := by
  have searched : ProperShares enumerationLimit := by decide +kernel
  exact known.elim searched.mono id

/-- The winner among some matches: the first complete one or, if no file of any match is right, the first of all. -/
structure Wins (limit : Nat) (before : List Overlap) (winner : Overlap) (after : List Overlap) : Prop where
  atMost : ∀ overlap ∈ before ++ winner :: after, overlap.matched ≤ overlap.proposed
  bounded : ∀ overlap ∈ before ++ winner :: after, overlap.proposed ≤ limit
  first : (winner.Complete ∧ ∀ overlap ∈ before, ¬ overlap.Complete) ∨
    (before = [] ∧ ∀ overlap ∈ winner :: after, overlap.matched = 0)

theorem Wins.best [LT α] {limit : Nat} {before after : List Overlap} {winner : Overlap}
    (wins : Wins limit before winner after) {share : Nat → Nat → α} {zero one : α}
    (laws : ShareLaws limit share zero one) : (∀ overlap ∈ before, winner.MorePrecise share overlap) ∧
      ∀ overlap ∈ after, ¬ overlap.MorePrecise share winner := by
  refine ⟨?_, ?_⟩ <;> intro overlap member <;> unfold Overlap.MorePrecise
  · have inside : overlap ∈ before ++ winner :: after := List.mem_append_left _ member
    rcases wins.first with ⟨⟨positive, same⟩, incomplete⟩ | ⟨rfl, _⟩
    · rw [← same, laws.everything _ positive]
      exact laws.lt_one (wins.bounded overlap inside) (wins.atMost overlap inside) (incomplete overlap member)
    · cases member
  · have inside : overlap ∈ before ++ winner :: after := List.mem_append_right _ (List.mem_cons_of_mem _ member)
    rcases wins.first with ⟨⟨positive, same⟩, _⟩ | ⟨_, empty⟩
    · rw [← same, laws.everything _ positive]
      exact laws.not_one_lt (wins.bounded overlap inside) (wins.atMost overlap inside)
    · rw [empty winner List.mem_cons_self, empty overlap (List.mem_cons_of_mem _ member), laws.nothing, laws.nothing]
      exact laws.irrefl zero

end Scoring

end ChangeCoupling
