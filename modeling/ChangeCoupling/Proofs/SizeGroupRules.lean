import ChangeCoupling.Proofs.LogRoundTrip
import ChangeCoupling.Proofs.MiningExactness
import ChangeCoupling.Rule
import ChangeCoupling.SizeGroup

/-! Mined itemsets reach the evaluation through the files of the size groups. Every mined file was a word of the log,
so a line of such a file comes apart into the files of its itemset, and reading it as a rule gives the rule of the
itemset. -/

namespace ChangeCoupling

namespace SizeGroups

theorem getElem?_add (groups : SizeGroups) (itemset : Itemset) (size : Nat) :
    (groups.add itemset)[size]? =
      if itemset.size = size then some ((groups.getD size #[]).push itemset) else groups[size]? := by
  unfold add
  rw [Std.TreeMap.getElem?_insert]
  by_cases same : itemset.size = size
  · simp [same]
  · simp [same]

private theorem getElem?_addAll (itemsets : List Itemset) (groups : SizeGroups) (size : Nat) :
    (itemsets.foldl add groups)[size]? =
      if itemsets.filter (·.size = size) = [] then groups[size]?
      else some (groups.getD size #[] ++ itemsets.filter (·.size = size)) := by
  induction itemsets generalizing groups with
  | nil => simp
  | cons itemset rest ih =>
    rw [List.foldl_cons, ih, Std.TreeMap.getD_eq_getD_getElem?, getElem?_add]
    by_cases same : itemset.size = size
    · by_cases more : rest.filter (·.size = size) = []
      · simp [same, more]
      · simp [same, more]
    · simp [same, Std.TreeMap.getD_eq_getD_getElem?]

/-- A group holds the itemsets of its size in their order, and there is one for every size of at least two that
occurs. -/
theorem getElem?_ofItemsets (itemsets : List Itemset) (size : Nat) (group : Array Itemset) :
    (ofItemsets itemsets)[size]? = some group ↔
      group.toList = (itemsets.filter fun itemset => itemset.size = size ∧ 1 < itemset.size) ∧ group ≠ #[] := by
  rw [ofItemsets, getElem?_addAll]
  simp only [List.filter_filter, Bool.decide_and]
  generalize itemsets.filter _ = members
  cases group with
  | mk listed =>
    by_cases empty : members = []
    · simp +contextual [empty]
    · simp only [empty, if_false, Option.some.injEq]
      constructor
      · intro same
        have listedAll : listed = members := by simpa using same.symm
        simp [listedAll, empty]
      · intro same
        simp [same.1]

theorem mem_group {itemsets : List Itemset} {size : Nat} {group : Array Itemset}
    (known : (ofItemsets itemsets)[size]? = some group) {itemset : Itemset} (member : itemset ∈ group.toList) :
    itemset ∈ itemsets ∧ itemset.size = size ∧ 1 < size := by
  rw [((getElem?_ofItemsets itemsets size group).mp known).1, List.mem_filter, decide_eq_true_iff] at member
  obtain ⟨inside, sameSize, several⟩ := member
  exact ⟨inside, sameSize, sameSize ▸ several⟩

theorem getElem?_size {itemsets : List Itemset} {itemset : Itemset} (member : itemset ∈ itemsets)
    (several : 1 < itemset.size) : (ofItemsets itemsets)[itemset.size]? =
      some (itemsets.filter fun other => other.size = itemset.size).toArray := by
  refine (getElem?_ofItemsets itemsets itemset.size _).mpr ⟨?_, ?_⟩
  · apply List.filter_congr
    intro other _
    simp only [decide_eq_decide]
    omega
  · have inside : itemset ∈ itemsets.filter fun other => other.size = itemset.size := by simp [member]
    simpa using List.ne_nil_of_mem inside

theorem mem_ofItemsets {itemsets : List Itemset} {size : Nat} :
    size ∈ ofItemsets itemsets ↔ 1 < size ∧ ∃ itemset ∈ itemsets, itemset.size = size := by
  rw [Std.TreeMap.mem_iff_isSome_getElem?, Option.isSome_iff_exists]
  constructor
  · intro known
    obtain ⟨group, known⟩ := known
    have nonempty : group.toList ≠ [] := by simpa using ((getElem?_ofItemsets itemsets size group).mp known).2
    obtain ⟨itemset, inGroup⟩ := List.exists_mem_of_ne_nil _ nonempty
    obtain ⟨member, sameSize, several⟩ := mem_group known inGroup
    exact ⟨several, itemset, member, sameSize⟩
  · intro occurs
    obtain ⟨several, itemset, member, rfl⟩ := occurs
    exact ⟨_, getElem?_size member several⟩

theorem ordered_keys (groups : SizeGroups) : groups.keys.Pairwise (· < ·) :=
  Std.TreeMap.ordered_keys.imp Nat.compare_eq_lt.mp

theorem toList_getD_ofItemsets (itemsets : List Itemset) (size : Nat) :
    ((ofItemsets itemsets).getD size #[]).toList =
      itemsets.filter fun itemset => itemset.size = size ∧ 1 < itemset.size := by
  rw [Std.TreeMap.getD_eq_getD_getElem?]
  cases known : (ofItemsets itemsets)[size]? with
  | some group => exact ((getElem?_ofItemsets itemsets size group).mp known).1
  | none =>
    symm
    rw [Option.getD_none, List.filter_eq_nil_iff]
    intro itemset member qualifies
    obtain ⟨rfl, several⟩ := of_decide_eq_true qualifies
    have isKey := mem_ofItemsets.mpr ⟨several, itemset, member, rfl⟩
    simp [Std.TreeMap.mem_iff_isSome_getElem?, known] at isKey

end SizeGroups

namespace Mining

theorem Mined.exists_transaction {log : List Transaction} {threshold : Nat} {found : List Itemset}
    (mined : Mined log threshold found) (atLeastOne : 1 ≤ threshold) {itemset : Itemset} (member : itemset ∈ found) :
    ∃ transaction ∈ log, itemset.items ⊆ transaction.files := by
  obtain ⟨_, _, counted, enough⟩ := (mined.mem_iff itemset).mp member
  have some : 0 < coverage log itemset.items.toFinset := counted ▸ atLeastOne.trans enough
  obtain ⟨transaction, inLog, contained⟩ := List.countP_pos_iff.mp some
  refine ⟨transaction, inLog, ?_⟩
  intro file inside
  have := (decide_eq_true_iff.mp contained) (List.mem_toFinset.mpr inside)
  exact List.mem_toFinset.mp this

/-- Mining makes up no files: all that it reports of the log of a text are words of that text. -/
theorem isWord_of_mem_mineUnder {plan : Plan} (complete : plan.Complete) {options : Options} {text : String}
    {itemset : Itemset} (member : itemset ∈ mineUnder plan options (Transaction.readLog text)) :
    ∀ file ∈ itemset.items, Text.IsWord file := by
  obtain ⟨transaction, inLog, contained⟩ :=
    (mineUnder_mined complete options _).exists_transaction (one_le_minCount options _) member
  intro file inside
  exact Transaction.isWord_of_mem_readLog inLog file (contained inside)

end Mining

namespace Rule

theorem ofLine?_intercalate {items : List String} (areWords : ∀ file ∈ items, Text.IsWord file) :
    ofLine? (" ".intercalate items) = ofFiles? items := by
  rw [ofLine?, Text.words_intercalate areWords]

/-- The rule of distinct files has all of them. -/
theorem ofFiles?_of_nodup {items : List String} (nonempty : items ≠ []) (distinct : items.Nodup) :
    ∃ rule, ofFiles? items = some rule ∧ rule.antecedent :: rule.consequent = items := by
  cases items with
  | nil => exact absurd rfl nonempty
  | cons antecedent consequent =>
    refine ⟨_, rfl, ?_⟩
    simp only [make, eraseDups_of_nodup (List.nodup_cons.mp distinct).2]

end Rule

/-- The lines of a size group are one for each of its itemsets, none of them blank, and they read as the rules of
these itemsets in their order. Such a rule has one file fewer in its consequent than the size says, and lists no file
twice. -/
theorem ofLine?_size_group {plan : Mining.Plan} (complete : plan.Complete) (options : Mining.Options) (text : String)
    {size : Nat} {group : Array Itemset}
    (known : (SizeGroups.ofItemsets (Mining.mineUnder plan options (Transaction.readLog text)))[size]? = some group) :
    (Text.lines (SizeGroups.text group)).length = group.size ∧
    (∀ line ∈ Text.lines (SizeGroups.text group), Text.allBlank line = false) ∧
    (Text.lines (SizeGroups.text group)).map Rule.ofLine? = group.toList.map Rule.ofItemset? ∧
    ∀ itemset ∈ group.toList, ∃ rule, Rule.ofItemset? itemset = some rule ∧
      rule.consequent.length = size - 1 ∧ (rule.antecedent :: rule.consequent).Nodup := by
  have areWords : ∀ itemset ∈ group.toList, ∀ file ∈ itemset.items, Text.IsWord file := by
    intro itemset member
    exact Mining.isWord_of_mem_mineUnder complete (SizeGroups.mem_group known member).1
  have lines : Text.lines (SizeGroups.text group) = group.toList.map fun itemset => " ".intercalate itemset.items := by
    apply Text.lines_unlines
    intro row member
    obtain ⟨itemset, inside, rfl⟩ := List.mem_map.mp member
    exact Text.fitsLine_intercalate (areWords itemset inside)
  rw [lines]
  refine ⟨by simp, ?_, ?_, ?_⟩
  · intro line member
    obtain ⟨itemset, inside, rfl⟩ := List.mem_map.mp member
    apply Text.allBlank_eq_false_of_words
    rw [Text.words_intercalate (areWords itemset inside)]
    obtain ⟨_, sameSize, several⟩ := SizeGroups.mem_group known inside
    apply List.ne_nil_of_length_pos
    change 0 < itemset.size
    omega
  · rw [List.map_map]
    apply List.map_congr_left
    intro itemset inside
    exact Rule.ofLine?_intercalate (areWords itemset inside)
  · intro itemset inside
    obtain ⟨inResult, rfl, _⟩ := SizeGroups.mem_group known inside
    obtain ⟨nonempty, ranked, _⟩ := ((Mining.mineUnder_mined complete options _).mem_iff itemset).mp inResult
    have distinct := Mining.ranked_nodup ranked
    obtain ⟨rule, isRule, files⟩ := Rule.ofFiles?_of_nodup nonempty distinct
    refine ⟨rule, isRule, ?_, files ▸ distinct⟩
    rw [Itemset.size, ← files, List.length_cons, Nat.add_sub_cancel]

/-- A log with other blanks than spaces, a carriage return, a repeated file and an empty change at its end: the pair of
files that is changed in two of the four changes is written and read as a rule. -/
theorem ofLine?_size_group_pair :
    Mining.Plan.Complete (fun _ count => Mining.Gather.inOrder count) ∧
      ∃ group, (SizeGroups.ofItemsets (Mining.mine ⟨Double.nearest 3 7, 3, by decide +kernel, by decide⟩
          (Transaction.readLog "core tests\r\ntests\ndocs\tcore tests core\n\n")))[2]? = some group ∧
        some ⟨"tests", ["core"]⟩ ∈ (Text.lines (SizeGroups.text group)).map Rule.ofLine? := by
  have complete : Mining.Plan.Complete (fun _ count => Mining.Gather.inOrder count) :=
    fun _ => Mining.Gather.inOrder_covers
  refine ⟨complete, ?_⟩
  let options : Mining.Options := ⟨Double.nearest 3 7, 3, by decide +kernel, by decide⟩
  let text := "core tests\r\ntests\ndocs\tcore tests core\n\n"
  let pair : Itemset := ⟨["tests", "core"], 2⟩
  have mined : pair ∈ Mining.mine options (Transaction.readLog text) :=
    ((Mining.mineUnder_mined complete options _).mem_iff pair).mpr
      ⟨by decide, List.pairwise_pair.mpr (.inl (by decide +kernel)), by decide +kernel, by decide +kernel⟩
  let group := ((Mining.mine options (Transaction.readLog text)).filter
    fun itemset => itemset.size = 2 ∧ 1 < itemset.size).toArray
  have inGroup : pair ∈ group.toList := List.mem_filter.mpr ⟨mined, by decide⟩
  have known : (SizeGroups.ofItemsets (Mining.mine options (Transaction.readLog text)))[2]? = some group := by
    refine (SizeGroups.getElem?_ofItemsets _ 2 group).mpr ⟨rfl, ?_⟩
    intro empty
    simp [empty] at inGroup
  refine ⟨group, known, ?_⟩
  rw [(ofLine?_size_group complete options text known).2.2.1]
  exact List.mem_map.mpr ⟨pair, inGroup, rfl⟩

end ChangeCoupling
