import ChangeCoupling.BugFix
import ChangeCoupling.Proofs.LinesAndWords
import Mathlib.Data.List.Infix

/-! Which messages mark bug fixes. Keyword and message are put into upper case character by character, and although that
may make a text longer, what occurs in the message still occurs in its upper case. -/

namespace ChangeCoupling

theorem occursIn_iff {part whole : List Char} : occursIn part whole = true ↔ part <:+: whole := by
  induction whole with
  | nil => simp [occursIn]
  | cons c rest ih => rw [occursIn, Bool.or_eq_true, ih, List.isPrefixOf_iff_prefix, List.infix_cons_iff]

namespace Text

theorem LetterCase.upperChar_ne_nil (c : Char) : upperChar c ≠ [] := by
  -- The only images that are read from the table as they stand are those of several characters.
  have expanded : ∀ expansion ∈ upperExpansions, expansion.2 ≠ [] := by decide
  unfold upperChar image
  split
  next codes found =>
    obtain ⟨front, back, listed, _⟩ := List.lookup_eq_some_iff.mp found
    have nonempty := expanded (c.toNat, codes) (by simp [listed])
    simpa using nonempty
  next => exact List.cons_ne_nil _ _

theorem upper_eq_empty_iff {text : String} : upper text = "" ↔ text = "" := by
  rw [← String.toList_eq_nil_iff, ← String.toList_eq_nil_iff, upper, String.toList_ofList, upperChars,
    List.flatMap_eq_nil_iff]
  constructor
  · intro vanish
    apply List.eq_nil_iff_forall_not_mem.mpr
    intro c member
    exact LetterCase.upperChar_ne_nil c (vanish c member)
  · intro empty
    simp [empty]

theorem isInfix_upper {part whole : String} (within : part.toList <:+: whole.toList) :
    (upper part).toList <:+: (upper whole).toList := by
  obtain ⟨front, back, whole⟩ := within
  rw [upper, upper, String.toList_ofList, String.toList_ofList, ← whole, upperChars, upperChars, List.flatMap_append,
    List.flatMap_append]
  exact List.infix_append _ _ _

end Text

namespace BugFix

theorem marks_ofKeywords {keywords : List String} {message : String} :
    (ofKeywords keywords).marks message = true ↔ ∃ keyword ∈ keywords, Text.trim keyword ≠ "" ∧
      (Text.upper (Text.trim keyword)).toList <:+: (Text.upper message).toList := by
  have kept (keyword : String) : (!(Text.upper keyword).isEmpty) = true ↔ keyword ≠ "" := by
    simp [Text.upper_eq_empty_iff]
  simp only [marks, ofKeywords, List.any_eq_true, List.mem_filter, List.mem_map, occursIn_iff]
  constructor
  · rintro ⟨_, ⟨⟨keyword, member, rfl⟩, nonempty⟩, within⟩
    exact ⟨keyword, member, (kept _).mp nonempty, within⟩
  · rintro ⟨keyword, member, nonempty, within⟩
    exact ⟨_, ⟨⟨keyword, member, rfl⟩, (kept _).mpr nonempty⟩, within⟩

theorem marks_of_occurs {keywords : List String} {keyword text message : String} (member : keyword ∈ keywords)
    (nonempty : Text.trim keyword ≠ "") (same : Text.upper text = Text.upper (Text.trim keyword))
    (within : text.toList <:+: message.toList) : (ofKeywords keywords).marks message = true := by
  refine marks_ofKeywords.mpr ⟨keyword, member, nonempty, ?_⟩
  rw [← same]
  exact Text.isInfix_upper within

theorem marks_longer {keywords : List String} {message longer : String} (within : message.toList <:+: longer.toList)
    (marked : (ofKeywords keywords).marks message = true) : (ofKeywords keywords).marks longer = true := by
  obtain ⟨keyword, member, nonempty, found⟩ := marks_ofKeywords.mp marked
  exact marks_ofKeywords.mpr ⟨keyword, member, nonempty, found.trans (Text.isInfix_upper within)⟩

theorem marks_more {keywords more : List String} (subset : keywords ⊆ more) {message : String}
    (marked : (ofKeywords keywords).marks message = true) : (ofKeywords more).marks message = true := by
  obtain ⟨keyword, member, found⟩ := marks_ofKeywords.mp marked
  exact marks_ofKeywords.mpr ⟨keyword, subset member, found⟩

/-- Lists of keywords that differ in the order, in repetitions, in blank keywords and in blanks around keywords. -/
inductive SameKeywords : List String → List String → Prop
  | reorder {keywords keywords' : List String} (same : keywords.Perm keywords') : SameKeywords keywords keywords'
  | repeated {keyword : String} {keywords : List String} (known : keyword ∈ keywords) :
    SameKeywords keywords (keyword :: keywords)
  | blank {keyword : String} (blank : Text.allBlank keyword = true) (keywords : List String) :
    SameKeywords keywords (keyword :: keywords)
  | padded {before after : String} (beforeBlank : Text.allBlank before = true) (afterBlank : Text.allBlank after = true)
    (keyword : String) (keywords : List String) :
    SameKeywords (keyword :: keywords) ((before ++ keyword ++ after) :: keywords)
  | symm {first second : List String} (same : SameKeywords first second) : SameKeywords second first
  | trans {first second third : List String} (before : SameKeywords first second) (after : SameKeywords second third) :
    SameKeywords first third

theorem SameKeywords.marks_eq {keywords keywords' : List String} (same : SameKeywords keywords keywords')
    (message : String) : (ofKeywords keywords).marks message = (ofKeywords keywords').marks message := by
  induction same with
  | reorder same =>
    rw [Bool.eq_iff_iff, marks_ofKeywords, marks_ofKeywords]
    simp only [same.mem_iff]
  | repeated known =>
    rw [Bool.eq_iff_iff]
    exact ⟨marks_more (List.subset_cons_self _ _), marks_more (List.cons_subset.mpr ⟨known, List.Subset.refl _⟩)⟩
  | blank blank keywords =>
    rw [Bool.eq_iff_iff, marks_ofKeywords, marks_ofKeywords]
    simp [Text.trim_of_allBlank blank]
  | padded beforeBlank afterBlank keyword keywords =>
    rw [Bool.eq_iff_iff, marks_ofKeywords, marks_ofKeywords]
    simp [Text.trim_padded beforeBlank afterBlank]
  | symm _ ih => exact ih.symm
  | trans _ _ first second => exact first.trans second

/-- A message marks a bug fix if the upper case of a keyword occurs in its own. What it contains in any case of letters
is found, and neither a longer message nor more keywords make it be missed. -/
theorem marks_substring_test (keywords : List String) (message : String) :
    ((ofKeywords keywords).marks message = true ↔ ∃ keyword ∈ keywords, Text.trim keyword ≠ "" ∧
      (Text.upper (Text.trim keyword)).toList <:+: (Text.upper message).toList) ∧
    (∀ keyword ∈ keywords, Text.trim keyword ≠ "" →
      (keyword.toList <:+: message.toList ∨
        ∃ text, Text.upper text = Text.upper (Text.trim keyword) ∧ text.toList <:+: message.toList) →
      (ofKeywords keywords).marks message = true) ∧
    (∀ longer, message.toList <:+: longer.toList → (ofKeywords keywords).marks message = true →
      (ofKeywords keywords).marks longer = true) ∧
    (∀ more, keywords ⊆ more → (ofKeywords keywords).marks message = true →
      (ofKeywords more).marks message = true) ∧
    ∀ keywords', SameKeywords keywords keywords' →
      (ofKeywords keywords').marks message = (ofKeywords keywords).marks message := by
  refine ⟨marks_ofKeywords, ?_, ?_, ?_, ?_⟩
  · rintro keyword member nonempty (within | ⟨text, same, within⟩)
    -- Where a keyword occurs with the blanks around it, it also occurs without them.
    · exact marks_of_occurs member nonempty rfl ((Text.isInfix_trim keyword).trans within)
    · exact marks_of_occurs member nonempty same within
  · exact fun longer within marked => marks_longer within marked
  · exact fun more subset marked => marks_more subset marked
  · exact fun keywords' same => (same.marks_eq message).symm

/-- A keyword of one character is found where its upper case has two. -/
theorem marks_substring_test_sharp :
    (ofKeywords [" ", "ß\t"]).marks "Masse" = true ∧ (ofKeywords [" ", "ß\t"]).marks "Eine Masse" = true ∧
      (ofKeywords ["x", " ", "ß\t"]).marks "Masse" = true ∧ (ofKeywords ["ß", "ß"]).marks "Masse" = true := by
  obtain ⟨_, occurs, longer, more, same⟩ := marks_substring_test [" ", "ß\t"] "Masse"
  have marked := occurs "ß\t" (by simp) (by decide +kernel) (.inr ⟨"ss", by decide +kernel, ⟨['M', 'a'], ['e'], rfl⟩⟩)
  refine ⟨marked, longer _ ⟨"Eine ".toList, [], rfl⟩ marked, more _ (by simp) marked, ?_⟩
  rw [same, marked]
  have trimmed : SameKeywords ["ß"] ["ß\t"] :=
    .padded (show Text.allBlank "" = true from rfl) (show Text.allBlank "\t" = true from rfl) "ß" []
  have once : SameKeywords ["ß"] ["ß", "ß"] := .repeated (by simp)
  exact ((SameKeywords.blank (by decide) _).symm.trans trimmed.symm).trans once

end BugFix

end ChangeCoupling
