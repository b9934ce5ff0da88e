import ChangeCoupling.Command.Script
import ChangeCoupling.Proofs.FileLocations

/-! Files that are written one after the other. Different names may stand for one file, so what counts is the file that
a path leads to: it holds the text of the last path that leads to it, and a file that none of the paths leads to is as
it was. Where there are no links, different names in a directory are different files. -/

namespace ChangeCoupling

namespace FileSystem

variable {files next before after later final : FileSystem} {location place home : Location}
  {path directory name other text : String} {content : ByteArray} {number : Nat}

/-- What a file holds from which a path leads, whether or not it may be read. -/
def Holds (files : FileSystem) (path text : String) : Prop :=
  ∃ number file, files.fileAt path = .ok number ∧ files.stored[number]? = some file ∧ file.content = text.toUTF8

theorem Holds.unique {text' : String} (holds : files.Holds path text) (again : files.Holds path text') :
    text = text' := by
  obtain ⟨number, file, found, there, content⟩ := holds
  obtain ⟨number', file', found', there', content'⟩ := again
  cases found.symm.trans found'
  cases there.symm.trans there'
  exact String.toByteArray_inj.mp (content.symm.trans content')

/-- The two ways in which a file is written. -/
inductive Writes (files : FileSystem) (path : String) (content : ByteArray) : FileSystem → Prop where
  | overwrite {number : Nat} (found : files.fileAt path = .ok number)
    (allowed : files.writeFault? number = none) :
    Writes files path content (files.overwrite number content)
  | create {location : Location} (located : files.locate path = .ok location) (free : files.node? location = none)
    (allowed : files.makeFault? location = none) : Writes files path content (files.create location { content })

theorem writeBytes_eq_ok : files.writeBytes path content = .ok next ↔
    Path.withoutFinalSlashes path = path ∧ files.Writes path content next := by
  constructor
  · intro written
    unfold writeBytes at written
    split at written
    next => split at written <;> cases written
    next noSlash =>
      refine ⟨not_not.mp noSlash, ?_⟩
      split at written
      next => cases written
      next location located =>
        split at written
        next => cases written
        next => cases written
        next number isFile =>
          split at written
          next => cases written
          next allowed =>
            cases written
            exact .overwrite (fileAt_eq_ok.mpr ⟨location, located, isFile⟩) allowed
        next free =>
          split at written
          next => cases written
          next allowed =>
            cases written
            exact .create located free allowed
  · intro ⟨noSlash, writes⟩
    rw [writeBytes, if_neg (not_not.mpr noSlash)]
    cases writes with
    | overwrite found allowed =>
      obtain ⟨location, located, isFile⟩ := fileAt_eq_ok.mp found
      simp [located, isFile, allowed]
    | create located free allowed => simp [located, free, allowed]

theorem node?_create_self (below : place ≠ []) (file : StoredFile) :
    (files.create place file).node? place = some (.file files.stored.size) :=
  node?_put_self below _ _

theorem node?_create_of_ne (different : location ≠ place) (file : StoredFile) :
    (files.create place file).node? location = files.node? location :=
  node?_put_of_ne different _ _

theorem getElem?_stored_create (file : StoredFile) (number : Nat) :
    (files.create place file).stored[number]? =
      if number = files.stored.size then some file else files.stored[number]? :=
  Array.getElem?_push

theorem getElem?_stored_overwrite (number other : Nat) :
    (files.overwrite number content).stored[other]? =
      if number = other then files.stored[other]?.map fun file => { file with content } else files.stored[other]? :=
  Array.getElem?_modify

theorem Grows.overwrite (files : FileSystem) (number : Nat) (content : ByteArray) :
    Grows files (files.overwrite number content) :=
  ⟨rfl, fun _ _ there => there, fun _ _ isLink => isLink⟩

theorem Grows.create (free : files.node? place = none) (file : StoredFile) : Grows files (files.create place file) := by
  refine ⟨rfl, ?_, ?_⟩
  · intro location node there
    rw [node?_create_of_ne, there]
    rintro rfl
    cases free.symm.trans there
  · intro location target isLink
    by_cases same : location = place
    · subst same
      rw [node?_create_self (ne_root_of_free free)] at isLink
      cases isLink
    · rwa [node?_create_of_ne same] at isLink

/-- What a write comes to: the path leads to a file that holds the content, and all else is as it was. A file that is
new can be written again. -/
structure Written (before : FileSystem) (path : String) (content : ByteArray) (number : Nat)
    (after : FileSystem) : Prop where
  grows : Grows before after
  leads : after.fileAt path = .ok number
  holds : ∃ file, after.stored[number]? = some file ∧ file.content = content
  others : ∀ other, other ≠ number → after.stored[other]? = before.stored[other]?
  writeFault : ∀ other, after.writeFault? other = before.writeFault? other
  node : ∀ location, after.node? location = before.node? location ∨
    before.node? location = none ∧ after.locate path = .ok location ∧
      after.node? location = some (.file before.stored.size)

theorem Writes.written (writes : files.Writes path content next) :
    ∃ number, Written files path content number next := by
  cases writes with
  | @overwrite number found allowed =>
    obtain ⟨location, located, isFile⟩ := fileAt_eq_ok.mp found
    have isStored := lt_of_file isFile
    have grows : Grows files (files.overwrite number content) := .overwrite files number content
    refine ⟨number, grows, grows.fileAt found, ?_, ?_, ?_, fun _ => .inl rfl⟩
    · exact ⟨{ files.stored[number] with content }, by simp [getElem?_stored_overwrite, isStored], rfl⟩
    · intro other different
      rw [getElem?_stored_overwrite, if_neg (Ne.symm different)]
    · intro other
      rw [writeFault?, writeFault?, getElem?_stored_overwrite]
      split
      · cases files.stored[other]? <;> rfl
      · rfl
  | @create place located free allowed =>
    have grows : Grows files (files.create place { content }) := .create free _
    have made := @node?_create_self files place (ne_root_of_free free) { content }
    refine ⟨files.stored.size, grows, fileAt_eq_ok.mpr ⟨place, grows.locate located, made⟩, ?_, ?_, ?_, ?_⟩
    · exact ⟨{ content }, by simp [getElem?_stored_create], rfl⟩
    · intro other different
      rw [getElem?_stored_create, if_neg different]
    · intro other
      rw [writeFault?, writeFault?, getElem?_stored_create]
      split
      next new => simp [new]
      next => rfl
    · intro location
      by_cases same : location = place
      · subst same
        exact .inr ⟨free, grows.locate located, made⟩
      · exact .inl (node?_create_of_ne same _)

/-- Whatever is written to the path, it is possible. -/
def Writable (files : FileSystem) (path : String) : Prop :=
  ∀ content, ∃ next, files.writeBytes path content = .ok next

theorem Written.makeFault? (written : Written before path content number after)
    (allowed : before.makeFault? location = none) : after.makeFault? location = none := by
  rw [FileSystem.makeFault?] at allowed ⊢
  split at allowed
  next access there => rw [written.grows.node _ _ there]; exact allowed
  next => cases allowed

/-- A path that can be written can still be written after a write to another one, or to itself. -/
theorem Written.writable (written : Written before path content number after) (writable : before.Writable other) :
    after.Writable other := by
  intro text
  obtain ⟨next, possible⟩ := writable text
  obtain ⟨noSlash, writes⟩ := writeBytes_eq_ok.mp possible
  cases writes with
  | overwrite found allowed =>
    rw [← written.writeFault] at allowed
    exact ⟨_, writeBytes_eq_ok.mpr ⟨noSlash, .overwrite (written.grows.fileAt found) allowed⟩⟩
  | @create location located free allowed =>
    have stillLocated := written.grows.locate located
    cases written.node location with
    | inl same =>
      exact ⟨_, writeBytes_eq_ok.mpr
        ⟨noSlash, .create stillLocated (same.trans free) (written.makeFault? allowed)⟩⟩
    | inr new =>
      -- The first path leads to the same place, so the file that was made there is written again.
      have found := fileAt_eq_ok.mpr ⟨location, stillLocated, new.2.2⟩
      refine ⟨_, writeBytes_eq_ok.mpr ⟨noSlash, .overwrite found ?_⟩⟩
      rw [written.writeFault, writeFault?, Array.getElem?_eq_none (Nat.le_refl _), Option.bind_none]

/-- No file has two names. -/
def OneName (files : FileSystem) : Prop :=
  ∀ location other number, files.node? location = some (.file number) → files.node? other = some (.file number) →
    location = other

/-- There are no links of either kind. -/
structure Unlinked (files : FileSystem) : Prop where
  noLink : ∀ location target, files.node? location ≠ some (.link target)
  oneName : files.OneName

theorem OneName.of_files (oneName : before.OneName)
    (wasFile : ∀ location number, after.node? location = some (.file number) →
      before.node? location = some (.file number)) : after.OneName := by
  intro location other number isFile isOther
  exact oneName location other number (wasFile location number isFile) (wasFile other number isOther)

theorem AddsDirectories.oneName {places : Location → Prop} (adds : AddsDirectories before after places)
    (oneName : before.OneName) : after.OneName := by
  refine oneName.of_files fun location number isFile => ?_
  cases adds.node location with
  | inl same => rwa [← same]
  | inr new => cases isFile.symm.trans new.2.1

theorem Unlinked.grow (unlinked : before.Unlinked) (grows : Grows before after) (oneName : after.OneName) :
    after.Unlinked where
  noLink location target isLink := unlinked.noLink location target (grows.link location target isLink)
  oneName := oneName

theorem AddsDirectories.unlinked {places : Location → Prop} (adds : AddsDirectories before after places)
    (unlinked : before.Unlinked) : after.Unlinked :=
  unlinked.grow adds.grows (adds.oneName unlinked.oneName)

/-- A new file has a number that none had before. -/
theorem OneName.add (oneName : before.OneName) (node : ∀ location, after.node? location = before.node? location ∨
      location = place ∧ after.node? location = some (.file before.stored.size)) : after.OneName := by
  intro location other number isFile isOther
  rcases node location with same | ⟨atPlace, new⟩
  · rcases node other with same' | ⟨_, new'⟩
    · exact oneName location other number (same ▸ isFile) (same' ▸ isOther)
    · cases isOther.symm.trans new'
      exact absurd (lt_of_file (same ▸ isFile)) (Nat.lt_irrefl _)
  · rcases node other with same' | ⟨atPlace', _⟩
    · cases isFile.symm.trans new
      exact absurd (lt_of_file (same' ▸ isOther)) (Nat.lt_irrefl _)
    · exact atPlace.trans atPlace'.symm

theorem OneName.create (oneName : files.OneName) (below : place ≠ []) (file : StoredFile) :
    (files.create place file).OneName := by
  refine @OneName.add _ _ place oneName fun location => ?_
  by_cases same : location = place
  · subst same
    exact .inr ⟨rfl, node?_create_self below file⟩
  · exact .inl (node?_create_of_ne same file)

theorem Written.oneName (written : Written before path content number after) (oneName : before.OneName) :
    after.OneName := by
  obtain ⟨place, located, _⟩ := fileAt_eq_ok.mp written.leads
  refine @OneName.add _ _ place oneName fun location => (written.node location).imp_right ?_
  intro ⟨_, located', new⟩
  exact ⟨Except.ok.inj (located'.symm.trans located), new⟩

theorem Unlinked.empty : ({} : FileSystem).Unlinked := by
  have nothing {location : Location} {node : Node} (there : ({} : FileSystem).node? location = some node) :
      location = [] := by
    by_contra below
    cases (node?_empty below).symm.trans there
  constructor
  · intro location target isLink
    cases nothing isLink
    cases isLink
  · intro location other number isFile isOther
    rw [nothing isFile, nothing isOther]

theorem OneName.link (oneName : files.OneName) (below : place ≠ []) (target : String)
    (isStored : ∀ number, Node.link target = .file number → number < files.stored.size) :
    (files.put place (.link target) isStored).OneName := by
  refine oneName.of_files fun location number isFile => ?_
  by_cases same : location = place
  · rw [same, node?_put_self below] at isFile
    cases isFile
  · rwa [node?_put_of_ne same] at isFile

theorem Unlinked.create (unlinked : files.Unlinked) (free : files.node? place = none) (file : StoredFile) :
    (files.create place file).Unlinked :=
  unlinked.grow (.create free file) (unlinked.oneName.create (ne_root_of_free free) file)

end FileSystem

namespace Script

variable {history : HistoryReader} {files before after final : FileSystem} {entries : List (String × String)}

/-- What comes of writing some texts. Of those for one file the last one counts. -/
structure WroteAll (entries : List (String × String)) (before after : FileSystem) : Prop where
  grows : before.Grows after
  leads : ∀ entry ∈ entries, ∃ number, after.fileAt entry.1 = .ok number
  holds : ∀ front path text back, entries = front ++ (path, text) :: back →
    (∀ later ∈ back, after.fileAt later.1 ≠ after.fileAt path) → after.Holds path text
  others : ∀ number, (∀ entry ∈ entries, after.fileAt entry.1 ≠ .ok number) →
    after.stored[number]? = before.stored[number]?
  node : ∀ location, after.node? location = before.node? location ∨
    before.node? location = none ∧ ∃ entry ∈ entries, after.locate entry.1 = .ok location
  oneName : before.OneName → after.OneName

theorem WroteAll.unlinked (wrote : WroteAll entries before after) (unlinked : before.Unlinked) : after.Unlinked :=
  unlinked.grow wrote.grows (wrote.oneName unlinked.oneName)

theorem WroteAll.cons {path text : String} {number : Nat} (written : before.Written path text.toUTF8 number files)
    (rest : WroteAll entries files after) : WroteAll ((path, text) :: entries) before after := by
  have led := rest.grows.fileAt written.leads
  refine ⟨written.grows.trans rest.grows, ?_, ?_, ?_, ?_, fun oneName => rest.oneName (written.oneName oneName)⟩
  · exact List.forall_mem_cons.mpr ⟨⟨number, led⟩, rest.leads⟩
  · intro front path' text' back divided unlike
    cases front with
    | nil =>
      cases divided
      obtain ⟨file, there, content⟩ := written.holds
      rw [led] at unlike
      exact ⟨number, file, led, (rest.others number unlike).trans there, content⟩
    | cons entry front => exact rest.holds front path' text' back (List.cons.inj divided).2 unlike
  · intro other unlike
    obtain ⟨first, later⟩ := List.forall_mem_cons.mp unlike
    rw [rest.others other later]
    refine written.others other ?_
    rintro rfl
    exact first led
  · intro location
    cases rest.node location with
    | inl same =>
      cases written.node location with
      | inl same' => exact .inl (same.trans same')
      | inr new => exact .inr ⟨new.1, _, List.mem_cons_self, rest.grows.locate new.2.1⟩
    | inr new =>
      obtain ⟨free, entry, member, located⟩ := new
      refine .inr ⟨?_, entry, List.mem_cons_of_mem _ member, located⟩
      cases written.node location with
      | inl same => exact same ▸ free
      | inr made => exact made.1

end Script

end ChangeCoupling
