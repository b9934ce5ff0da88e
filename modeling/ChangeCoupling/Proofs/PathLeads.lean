import ChangeCoupling.Path
import ChangeCoupling.Proofs.LinesAndWords
import Mathlib.Data.List.DropRight

/-! Paths that lead along the way of another path. The paths of the directories that a path is in are put together anew
from its parts, and still each of them follows the first of these parts and no others. -/

namespace ChangeCoupling.Path

theorem parts_ne_nil (path : String) : parts path ≠ [] := by
  simp [parts]

theorem slash_not_mem_of_mem_parts {path part : String} (member : part ∈ parts path) : '/' ∉ part.toList := by
  obtain ⟨chars, piece, rfl⟩ := List.mem_map.mp member
  intro inside
  have := (Text.of_mem_splitOnP piece '/' (by simpa using inside)).2
  simp at this

theorem parts_of_slash_not_mem {name : String} (plain : '/' ∉ name.toList) : parts name = [name] := by
  rw [parts, List.splitOn_eq_singleton plain]
  simp

theorem parts_append_slash (first second : List Char) :
    parts (String.ofList (first ++ '/' :: second)) = parts (String.ofList first) ++ parts (String.ofList second) := by
  simp [parts, List.splitOn, List.splitOnP_append_cons]

theorem parts_ofParts {pieces : List String} (nonempty : pieces ≠ []) (plain : ∀ piece ∈ pieces, '/' ∉ piece.toList) :
    parts (ofParts pieces) = pieces := by
  rw [parts, ofParts, String.toList_intercalate]
  change List.map _ (List.splitOn '/' (['/'].intercalate _)) = _
  rw [List.splitOn_intercalate]
  · simp
  · intro chars member
    obtain ⟨piece, inside, rfl⟩ := List.mem_map.mp member
    exact plain piece inside
  · simpa using nonempty

theorem ofParts_parts (path : String) : ofParts (parts path) = path := by
  rw [← String.toList_inj, parts, ofParts, String.toList_intercalate]
  simp

/-- An absolute path has nothing before its first slash. -/
theorem isAbsolute_iff {path : String} : isAbsolute path = true ↔ ∃ rest, rest ≠ [] ∧ parts path = "" :: rest := by
  rw [isAbsolute, beq_iff_eq]
  constructor
  · intro slash
    obtain ⟨rest, chars⟩ := List.head?_eq_some_iff.mp slash
    have split := parts_append_slash [] rest
    rw [List.nil_append, ← chars, String.ofList_toList] at split
    exact ⟨parts (String.ofList rest), parts_ne_nil _, split⟩
  · intro ⟨rest, nonempty, split⟩
    obtain ⟨second, others, rfl⟩ := List.exists_cons_of_ne_nil nonempty
    rw [← ofParts_parts path, split, ofParts, String.intercalate_cons_cons]
    simp

theorem significant_isPrefix (pieces : List String) : significant pieces <+: pieces := by
  cases pieces with
  | nil => exact List.prefix_rfl
  | cons first rest => exact List.prefix_cons_inj first |>.mpr (List.rdropWhile_prefix staysPut rest)

/-- The first of two paths leads to a place on the way of the second, with nothing but parts behind it that lead
nowhere else. -/
structure Leads (first path : String) : Prop where
  isAbsolute : isAbsolute first = isAbsolute path
  parts : ∃ lead stays, parts first = lead ++ stays ∧ lead <+: parts path ∧ ∀ part ∈ stays, staysPut part = true

namespace Leads

theorem refl (path : String) : Leads path path :=
  ⟨rfl, Path.parts path, [], by simp, List.prefix_rfl, by simp⟩

theorem trans {first second third : String} (toSecond : Leads first second) (toThird : Leads second third) :
    Leads first third := by
  obtain ⟨lead, stays, split, onWay, put⟩ := toSecond.parts
  obtain ⟨further, behind, splitFurther, onFurther, putBehind⟩ := toThird.parts
  refine ⟨toSecond.isAbsolute.trans toThird.isAbsolute, ?_⟩
  rw [splitFurther] at onWay
  cases List.prefix_or_prefix_of_prefix onWay (List.prefix_append further behind) with
  | inl shorter => exact ⟨lead, stays, split, shorter.trans onFurther, put⟩
  | inr longer =>
    -- The parts of the first path that lie beyond are parts of the second one that stay where they are.
    obtain ⟨extra, rfl⟩ := longer
    have beyond : extra <+: behind := (List.prefix_append_right_inj further).mp onWay
    refine ⟨further, extra ++ stays, by rw [split, List.append_assoc], onFurther, ?_⟩
    intro part member
    cases List.mem_append.mp member with
    | inl inExtra => exact putBehind part (beyond.subset inExtra)
    | inr inStays => exact put part inStays

theorem root {path : String} (absolute : Path.isAbsolute path = true) : Leads "/" path := by
  obtain ⟨rest, _, split⟩ := isAbsolute_iff.mp absolute
  have slash : Path.parts "/" = ["", ""] := by decide +kernel
  exact ⟨absolute.symm ▸ rfl, [""], [""], slash, by rw [split]; exact ⟨rest, rfl⟩, by simp [staysPut]⟩

theorem append_slash {chars : List Char} (nonempty : chars ≠ []) (rest : List Char) :
    Leads (String.ofList chars) (String.ofList (chars ++ '/' :: rest)) where
  isAbsolute := by
    obtain ⟨char, others, rfl⟩ := List.exists_cons_of_ne_nil nonempty
    simp [Path.isAbsolute]
  parts := ⟨_, [], (List.append_nil _).symm, ⟨_, (parts_append_slash chars rest).symm⟩, by simp⟩

theorem withoutFinalSlashes (path : String) : Leads (withoutFinalSlashes path) path := by
  have joined := List.rdropWhile_append_rtakeWhile (p := (· == '/')) (l := path.toList)
  have slashes := fun char => List.mem_rtakeWhile_imp (p := (· == '/')) (l := path.toList) (x := char)
  rw [Path.withoutFinalSlashes, ← List.rdropWhile]
  split
  next stripped =>
    simp only [Bool.and_eq_true] at stripped
    exact root stripped.2
  next notRoot =>
    generalize path.toList.rdropWhile (· == '/') = kept at joined notRoot ⊢
    cases removed : path.toList.rtakeWhile (· == '/') with
    | nil =>
      rw [removed, List.append_nil] at joined
      rw [joined, String.ofList_toList]
      exact refl path
    | cons char rest =>
      have isSlash : char = '/' := by simpa using slashes char (removed ▸ List.mem_cons_self)
      subst isSlash
      rw [removed] at joined
      have nonempty : kept ≠ [] := by
        intro empty
        simp [empty, Path.isAbsolute, ← joined] at notRoot
      have leads := append_slash nonempty rest
      rwa [joined, String.ofList_toList] at leads

theorem ofParts {path : String} {pieces : List String} (onWay : pieces <+: Path.parts path) (nonempty : pieces ≠ [])
    (notRoot : pieces ≠ [""]) : Leads (ofParts pieces) path := by
  have split : Path.parts (Path.ofParts pieces) = pieces :=
    parts_ofParts nonempty fun piece member => slash_not_mem_of_mem_parts (onWay.subset member)
  refine ⟨?_, pieces, [], by rw [split, List.append_nil], onWay, by simp⟩
  obtain ⟨first, more, rfl⟩ := List.exists_cons_of_ne_nil nonempty
  obtain ⟨further, joined⟩ := onWay
  rw [Bool.eq_iff_iff, isAbsolute_iff, isAbsolute_iff, split, ← joined]
  constructor
  · intro ⟨rest, behind, absolute⟩
    cases absolute
    exact ⟨more ++ further, by simp [behind], rfl⟩
  · intro ⟨_, _, absolute⟩
    cases absolute
    exact ⟨more, fun alone => notRoot (by rw [alone]), rfl⟩

theorem parent {path parent : String} (isParent : parent? path = some parent) : Leads parent path := by
  have cut := significant_isPrefix (Path.parts path)
  rw [parent?] at isParent
  split at isParent
  next => cases isParent
  next first alone =>
    -- A single name is in the directory that the path starts from.
    split at isParent
    next => cases isParent
    next named =>
      cases isParent
      have relative : Path.isAbsolute path = false := by
        rw [Bool.eq_false_iff, ne_eq, isAbsolute_iff]
        intro ⟨rest, _, absolute⟩
        rw [alone, absolute, List.cons_prefix_cons] at cut
        simp [cut.1] at named
      exact ⟨relative.symm ▸ rfl, [], [""], by decide +kernel, List.nil_prefix, by simp [staysPut]⟩
  next first rest notAlone several =>
    rw [several] at cut
    obtain rfl := Option.some.inj isParent
    split
    next isRoot =>
      have empty : first = "" := (List.cons.inj isRoot).1
      obtain ⟨further, joined⟩ := cut
      refine root (isAbsolute_iff.mpr ⟨rest ++ further, ?_, by rw [← joined, empty, List.cons_append]⟩)
      intro nothing
      exact notAlone (List.append_eq_nil_iff.mp nothing).1
    next notRoot =>
      have shorter : first :: rest.dropLast <+: first :: rest :=
        (List.prefix_cons_inj first).mpr (List.dropLast_prefix rest)
      exact ofParts (((significant_isPrefix _).trans shorter).trans cut) (List.cons_ne_nil _ _) notRoot

theorem ancestorsFrom {fuel : Nat} {path ancestor : String} (member : ancestor ∈ ancestorsFrom fuel path) :
    Leads ancestor path := by
  induction fuel generalizing path with
  | zero => cases member
  | succ fuel ih =>
    rw [Path.ancestorsFrom] at member
    split at member
    next => cases member
    next above isParent =>
      cases List.mem_append.mp member with
      | inl further => exact (ih further).trans (parent isParent)
      | inr last => exact List.mem_singleton.mp last ▸ refl path

end Leads

/-- A name that leads from every directory to a place of its own in it. -/
structure IsName (name : String) : Prop where
  plain : '/' ∉ name.toList
  moves : staysPut name = false
  down : name ≠ ".."

instance (name : String) : Decidable (IsName name) :=
  decidable_of_iff ('/' ∉ name.toList ∧ staysPut name = false ∧ name ≠ "..")
    ⟨fun ⟨plain, moves, down⟩ => ⟨plain, moves, down⟩, fun named => ⟨named.plain, named.moves, named.down⟩⟩

end ChangeCoupling.Path
