import Mathlib.Data.List.Perm.Subperm
import Mathlib.Data.List.Sort

/-! Facts about lists that several parts rely on. -/

namespace ChangeCoupling

theorem sublist_iff_subset {part whole : List Nat} (partIncreasing : part.Pairwise (· < ·))
    (wholeIncreasing : whole.Pairwise (· < ·)) : part.Sublist whole ↔ part ⊆ whole := by
  refine ⟨List.Sublist.subset, fun within => ?_⟩
  have subperm := List.subperm_of_subset (partIncreasing.imp Nat.ne_of_lt) within
  exact List.sublist_of_subperm_of_pairwise subperm partIncreasing wholeIncreasing

theorem nodup_of_pairwise {r : α → α → Prop} (irrefl : ∀ item, ¬ r item item) {items : List α}
    (sorted : items.Pairwise r) : items.Nodup := by
  refine sorted.imp ?_
  rintro item _ before rfl
  exact irrefl item before

/-- A sorted list is determined by its members. -/
theorem eq_of_pairwise_of_mem_iff {r : α → α → Prop} (asymm : ∀ first second, r first second → ¬ r second first)
    {items items' : List α} (sorted : items.Pairwise r) (sorted' : items'.Pairwise r)
    (same : ∀ item, item ∈ items ↔ item ∈ items') : items = items' := by
  have irrefl : ∀ item, ¬ r item item := fun item before => asymm item item before before
  have perm : items.Perm items' :=
    (List.perm_ext_iff_of_nodup (nodup_of_pairwise irrefl sorted) (nodup_of_pairwise irrefl sorted')).mpr same
  apply perm.eq_of_pairwise _ sorted sorted'
  intro first second _ _ before after
  exact False.elim (asymm first second before after)

theorem eraseDups_of_nodup [BEq α] [LawfulBEq α] {items : List α} (distinct : items.Nodup) :
    items.eraseDups = items := by
  induction items with
  | nil => rfl
  | cons item rest ih =>
    obtain ⟨absent, restDistinct⟩ := List.nodup_cons.mp distinct
    have kept : rest.filter (fun other => !other == item) = rest := by
      rw [List.filter_eq_self]
      intro other member
      simpa using fun same : other = item => absent (same ▸ member)
    rw [List.eraseDups_cons, kept, ih restDistinct]

theorem eraseDups_concat [BEq α] [LawfulBEq α] (items : List α) (item : α) :
    (items ++ [item]).eraseDups = if item ∈ items then items.eraseDups else items.eraseDups ++ [item] := by
  rw [List.eraseDups_append]
  split
  next known => simp [List.removeAll, known]
  next new => simp [List.removeAll, new, List.eraseDups_cons]

theorem filter_key_eq [DecidableEq β] {key : α → β} {items : List α} (distinct : (items.map key).Nodup) {item : α}
    (member : item ∈ items) : items.filter (key · = key item) = [item] := by
  apply List.perm_singleton.mp
  apply (List.perm_ext_iff_of_nodup (distinct.of_map.filter _) (List.nodup_singleton item)).mpr
  intro other
  rw [List.mem_filter, decide_eq_true_iff, List.mem_singleton]
  constructor
  · intro found
    exact List.inj_on_of_nodup_map distinct found.1 member found.2
  · intro same
    exact ⟨same ▸ member, congrArg key same⟩

theorem mapM_eq_pure [Monad m] [LawfulMonad m] {f : α → m β} {g : α → β} {items : List α}
    (same : ∀ item ∈ items, f item = pure (g item)) : items.mapM f = pure (items.map g) := by
  induction items with
  | nil => simp
  | cons item rest ih =>
    have first := same item List.mem_cons_self
    have others := ih fun item member => same item (List.mem_cons_of_mem _ member)
    simp [List.mapM_cons, first, others]

theorem mapM_eq_some_iff {f : α → Option β} {items : List α} {values : List β} :
    items.mapM f = some values ↔ items.map f = values.map some := by
  induction items generalizing values with
  | nil => cases values <;> simp
  | cons item rest ih =>
    rw [List.mapM_cons, List.map_cons]
    cases values with
    | nil => simp [Option.bind_eq_some_iff]
    | cons value others => simp [Option.bind_eq_some_iff, ← ih]

theorem mapM_unless (p : α → Bool) (f : α → β) (items : List α) :
    items.mapM (fun item => if p item then none else some (f item)) =
      if items.any p then none else some (items.map f) := by
  induction items with
  | nil => simp
  | cons item rest ih =>
    rw [List.mapM_cons, ih, List.any_cons]
    cases p item <;> cases rest.any p <;> simp

theorem bind_eq_ok {x : Except ε α} {f : α → Except ε β} {value : β} (all : x >>= f = .ok value) :
    ∃ item, x = .ok item ∧ f item = .ok value := by
  cases x with
  | error => cases all
  | ok item => exact ⟨item, rfl, all⟩

theorem exists_of_mem_mapM {f : α → Except ε β} {items : List α} {values : List β} (all : items.mapM f = .ok values)
    {value : β} (member : value ∈ values) : ∃ item ∈ items, f item = .ok value := by
  induction items generalizing values with
  | nil =>
    cases all
    cases member
  | cons item rest ih =>
    rw [List.mapM_cons] at all
    obtain ⟨head, first, all⟩ := bind_eq_ok all
    obtain ⟨tail, others, all⟩ := bind_eq_ok all
    cases all
    cases List.mem_cons.mp member with
    | inl same => exact ⟨item, List.mem_cons_self, same ▸ first⟩
    | inr later =>
      obtain ⟨other, inside, found⟩ := ih others later
      exact ⟨other, List.mem_cons_of_mem _ inside, found⟩

theorem foldl_max_spec (value : α → Nat) (items : List α) (start : Nat) :
    (∀ item ∈ items, value item ≤ items.foldl (fun greatest item => max greatest (value item)) start) ∧
      start ≤ items.foldl (fun greatest item => max greatest (value item)) start ∧
      (items.foldl (fun greatest item => max greatest (value item)) start = start ∨
        ∃ item ∈ items, value item = items.foldl (fun greatest item => max greatest (value item)) start) := by
  induction items generalizing start with
  | nil => simp
  | cons first rest ih =>
    obtain ⟨each, above, reached⟩ := ih (max start (value first))
    rw [List.foldl_cons]
    refine ⟨?_, (Nat.le_max_left _ _).trans above, ?_⟩
    · intro item member
      rcases List.mem_cons.mp member with rfl | later
      · exact (Nat.le_max_right _ _).trans above
      · exact each item later
    · rcases reached with unchanged | ⟨item, member, value⟩
      · rw [unchanged]
        rcases Nat.le_total (value first) start with below | above
        · exact .inl (Nat.max_eq_left below)
        · exact .inr ⟨first, List.mem_cons_self, (Nat.max_eq_right above).symm⟩
      · exact .inr ⟨item, List.mem_cons_of_mem _ member, value⟩

end ChangeCoupling
