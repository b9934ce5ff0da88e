import ChangeCoupling.FileSystem
import ChangeCoupling.Proofs.PathLeads

/-! Where paths lead while files and directories are made. A walk takes one step for each part of a path and for each
link, so what holds of walks is shown step by step. Nothing that a command does takes anything away or puts a link
somewhere, so a path that can be followed leads to the same place ever after, and new directories lie on the way of the
path that they are made for. -/

namespace ChangeCoupling.FileSystem

variable {files next before after later final : FileSystem} {location place finish home : Location}
  {path directory name text part : String} {rest pieces : List String} {links number : Nat}

theorem node?_put_self (below : place ≠ []) (node : Node)
    (isStored : ∀ number, node = .file number → number < files.stored.size) :
    (files.put place node isStored).node? place = some node := by
  simp [node?, put, below]

theorem node?_put_of_ne (other : location ≠ place) (node : Node)
    (isStored : ∀ number, node = .file number → number < files.stored.size) :
    (files.put place node isStored).node? location = files.node? location := by
  simp [node?, put, Std.HashMap.getElem?_insert, Ne.symm other]

theorem ne_root_of_free (free : files.node? location = none) : location ≠ [] := by
  intro root
  subst root
  cases free

theorem lt_of_file (isFile : files.node? location = some (.file number)) : number < files.stored.size := by
  rw [node?] at isFile
  split at isFile
  · cases isFile
  · exact files.isStored location number isFile

theorem step_of_staysPut (stays : Path.staysPut part = true) (location : Location) :
    step location part = .ok location := by
  simp [step, stays]

theorem step_name (named : Path.IsName name) :
    step location name = .ok finish ↔ name.utf8ByteSize ≤ maxNameSize ∧ name :: location = finish := by
  simp only [step, named.moves, Bool.false_eq_true, if_false, beq_iff_eq, named.down]
  split
  next long => simp [Nat.not_le.mpr long]
  next short => simp [Nat.not_lt.mp short]

theorem look_eq_ok : files.look location part = .ok place ↔
    ∃ access, files.node? location = some (.directory access) ∧
      (part.isEmpty = true ∧ location = place ∨
        part.isEmpty = false ∧ access.readFault? = none ∧ step location part = .ok place) := by
  rw [look]
  cases files.node? location with
  | none => simp
  | some node =>
    cases node with
    | file | link => simp
    | directory access => cases part.isEmpty <;> cases fault : access.readFault? <;> simp [fault]

/-- Only a directory can be looked into. -/
theorem not_link_of_look (looked : files.look location part = .ok place) (target : String) :
    files.node? location ≠ some (.link target) := by
  obtain ⟨access, there, _⟩ := look_eq_ok.mp looked
  simp [there]

theorem look_of_staysPut (stays : Path.staysPut part = true) (looked : files.look location part = .ok place) :
    place = location := by
  obtain ⟨_, _, ⟨_, same⟩ | ⟨_, _, stepped⟩⟩ := look_eq_ok.mp looked
  · exact same.symm
  · rw [step_of_staysPut stays] at stepped
    exact (Except.ok.inj stepped).symm

/-- Walks that get to a place, with one step for each part and each link on the way. -/
inductive Arrives (files : FileSystem) : Nat → Location → List String → Location → Prop where
  | here (links : Nat) (location : Location) : Arrives files links location [] location
  | on {links : Nat} {location place finish : Location} {part : String} {rest : List String}
    (looked : files.look location part = .ok place) (plain : ∀ target, files.node? place ≠ some (.link target))
    (onward : Arrives files links place rest finish) : Arrives files links location (part :: rest) finish
  | follow {links : Nat} {location place finish : Location} {part target : String} {rest : List String}
    (looked : files.look location part = .ok place) (isLink : files.node? place = some (.link target))
    (possible : pathFault? target = none)
    (onward : Arrives files links (origin location target) (Path.parts target ++ rest) finish) :
    Arrives files (links + 1) location (part :: rest) finish

section
variable {onward : Location → List String → Except FileFault Location}

theorem walkWith_on (looked : files.look location part = .ok place)
    (plain : ∀ target, files.node? place ≠ some (.link target)) :
    files.walkWith onward location (part :: rest) = files.walkWith onward place rest := by
  rw [walkWith, looked]
  dsimp only
  split
  next target isLink => exact absurd isLink (plain target)
  next => rfl

theorem walkWith_follow {target : String} (looked : files.look location part = .ok place)
    (isLink : files.node? place = some (.link target)) (possible : pathFault? target = none) :
    files.walkWith onward location (part :: rest) = onward (origin location target) (Path.parts target ++ rest) := by
  rw [walkWith, looked]
  dsimp only
  rw [isLink]
  dsimp only
  rw [possible]

theorem arrives_of_walkWith (further : ∀ location pieces finish, onward location pieces = .ok finish →
      ∃ fewer, links = fewer + 1 ∧ files.Arrives fewer location pieces finish)
    (walked : files.walkWith onward location pieces = .ok finish) : files.Arrives links location pieces finish := by
  induction pieces generalizing location with
  | nil =>
    cases walked
    exact .here links _
  | cons part rest ih =>
    cases looked : files.look location part with
    | error fault =>
      rw [walkWith, looked] at walked
      cases walked
    | ok place =>
      by_cases linked : ∃ target, files.node? place = some (.link target)
      · obtain ⟨target, isLink⟩ := linked
        cases possible : pathFault? target with
        | some fault =>
          rw [walkWith, looked] at walked
          dsimp only at walked
          rw [isLink] at walked
          dsimp only at walked
          rw [possible] at walked
          cases walked
        | none =>
          rw [walkWith_follow looked isLink possible] at walked
          obtain ⟨fewer, rfl, arrives⟩ := further _ _ _ walked
          exact .follow looked isLink possible arrives
      · have plain : ∀ target, files.node? place ≠ some (.link target) :=
          fun target isLink => linked ⟨target, isLink⟩
        rw [walkWith_on looked plain] at walked
        exact .on looked plain (ih walked)

end

theorem walk_eq_ok : files.walk links location pieces = .ok finish ↔ files.Arrives links location pieces finish := by
  constructor
  · intro walked
    induction links generalizing location pieces finish with
    | zero =>
      refine arrives_of_walkWith ?_ walked
      intro _ _ _ impossible
      cases impossible
    | succ links ih => exact arrives_of_walkWith (fun _ _ _ walked => ⟨links, rfl, ih walked⟩) walked
  · intro arrives
    induction arrives with
    | here links location => cases links <;> rfl
    | @on links _ _ _ _ _ looked plain _ ih =>
      cases links with
      | zero => exact (walkWith_on looked plain).trans ih
      | succ links => exact (walkWith_on looked plain).trans ih
    | follow looked isLink possible _ ih => exact (walkWith_follow looked isLink possible).trans ih

theorem locate_eq_ok : files.locate path = .ok location ↔
    pathFault? path = none ∧ files.Arrives maxLinks (files.start path) (Path.parts path) location := by
  rw [locate]
  cases pathFault? path <;> simp [walk_eq_ok]

theorem fileAt_eq_ok : files.fileAt path = .ok number ↔
    ∃ location, files.locate path = .ok location ∧ files.node? location = some (.file number) := by
  rw [fileAt]
  cases files.locate path with
  | error fault => simp
  | ok location =>
    cases node : files.node? location with
    | none => simp [node]
    | some node' => cases node' <;> simp [node]

namespace Arrives

/-- A part that can be looked up at the end of a walk makes it longer. -/
theorem concat (arrives : files.Arrives links location pieces home) (looked : files.look home part = .ok place)
    (plain : ∀ target, files.node? place ≠ some (.link target)) :
    files.Arrives links location (pieces ++ [part]) place := by
  induction arrives with
  | here links _ => exact .on looked plain (.here links place)
  | on first firstPlain _ ih => exact .on first firstPlain (ih looked)
  | follow first isLink possible _ ih => exact .follow first isLink possible (by simpa using ih looked)

/-- A walk can be divided at any part. It may follow fewer links from there on. -/
theorem split (arrives : files.Arrives links location pieces finish) {first second : List String}
    (divided : pieces = first ++ second) :
    ∃ place fewer, files.Arrives links location first place ∧ files.Arrives fewer place second finish := by
  induction arrives generalizing first with
  | here links location =>
    obtain ⟨rfl, rfl⟩ := List.append_eq_nil_iff.mp divided.symm
    exact ⟨location, links, .here links location, .here links location⟩
  | @on links location _ _ _ _ looked plain onward ih =>
    cases first with
    | nil =>
      cases (List.nil_append second).symm.trans divided.symm
      exact ⟨location, links, .here links location, .on looked plain onward⟩
    | cons part front =>
      obtain ⟨rfl, rfl⟩ := List.cons.inj divided
      obtain ⟨place, fewer, led, further⟩ := ih rfl
      exact ⟨place, fewer, .on looked plain led, further⟩
  | @follow links location _ _ _ target _ looked isLink possible onward ih =>
    cases first with
    | nil =>
      cases (List.nil_append second).symm.trans divided.symm
      exact ⟨location, links + 1, .here _ location, .follow looked isLink possible onward⟩
    | cons part front =>
      obtain ⟨rfl, rfl⟩ := List.cons.inj divided
      -- The parts of the target come before those that are left.
      obtain ⟨place, fewer, led, further⟩ := @ih (Path.parts target ++ front) (List.append_assoc _ _ _).symm
      exact ⟨place, fewer, .follow looked isLink possible led, further⟩

theorem stays (arrives : files.Arrives links location pieces finish)
    (put : ∀ part ∈ pieces, Path.staysPut part = true) : finish = location := by
  induction arrives with
  | here => rfl
  | on looked _ _ ih =>
    obtain ⟨first, others⟩ := List.forall_mem_cons.mp put
    rw [ih others, look_of_staysPut first looked]
  | follow looked isLink =>
    cases look_of_staysPut (put _ List.mem_cons_self) looked
    exact absurd isLink (not_link_of_look looked _)

end Arrives

/-- Everything that is there stays, and no link is new. -/
structure Grows (before after : FileSystem) : Prop where
  current : after.current = before.current
  node : ∀ location node, before.node? location = some node → after.node? location = some node
  link : ∀ location target, after.node? location = some (.link target) → before.node? location = some (.link target)

namespace Grows

theorem refl (files : FileSystem) : Grows files files := ⟨rfl, fun _ _ same => same, fun _ _ same => same⟩

theorem trans (first : Grows before after) (second : Grows after later) : Grows before later where
  current := second.current.trans first.current
  node location node there := second.node location node (first.node location node there)
  link location target isLink := first.link location target (second.link location target isLink)

theorem look (grows : Grows before after) (looked : before.look location part = .ok place) :
    after.look location part = .ok place := by
  obtain ⟨access, there, steps⟩ := look_eq_ok.mp looked
  exact look_eq_ok.mpr ⟨access, grows.node location _ there, steps⟩

theorem arrives (grows : Grows before after) (arrives : before.Arrives links location pieces finish) :
    after.Arrives links location pieces finish := by
  induction arrives with
  | here links location => exact .here links location
  | on looked plain _ ih => exact .on (grows.look looked) (fun target isLink => plain target (grows.link _ _ isLink)) ih
  | follow looked isLink possible _ ih => exact .follow (grows.look looked) (grows.node _ _ isLink) possible ih

theorem start (grows : Grows before after) (path : String) : after.start path = before.start path := by
  rw [FileSystem.start, FileSystem.start, grows.current]

theorem locate (grows : Grows before after) (located : before.locate path = .ok location) :
    after.locate path = .ok location := by
  obtain ⟨possible, arrives⟩ := locate_eq_ok.mp located
  exact locate_eq_ok.mpr ⟨possible, grows.start path ▸ grows.arrives arrives⟩

theorem fileAt (grows : Grows before after) (found : before.fileAt path = .ok number) :
    after.fileAt path = .ok number := by
  obtain ⟨location, located, isFile⟩ := fileAt_eq_ok.mp found
  exact fileAt_eq_ok.mpr ⟨location, grows.locate located, grows.node location _ isFile⟩

end Grows

/-- The directories that a path leads through, and what it leads to. -/
def OnWay (files : FileSystem) (path : String) (location : Location) : Prop :=
  ∃ count, files.Arrives maxLinks (files.start path) ((Path.parts path).take count) location

theorem Grows.onWay (grows : Grows before after) (onWay : before.OnWay path location) : after.OnWay path location := by
  obtain ⟨count, arrives⟩ := onWay
  exact ⟨count, grows.start path ▸ grows.arrives arrives⟩

/-- Nothing changes but that there are new directories, each of them in one of the given places. -/
structure AddsDirectories (before after : FileSystem) (places : Location → Prop) : Prop where
  current : after.current = before.current
  stored : after.stored = before.stored
  node : ∀ location, after.node? location = before.node? location ∨
    before.node? location = none ∧ after.node? location = some (.directory {}) ∧ places location

namespace AddsDirectories

variable {places others : Location → Prop}

theorem refl (files : FileSystem) (places : Location → Prop) : AddsDirectories files files places :=
  ⟨rfl, rfl, fun _ => .inl rfl⟩

theorem mono (adds : AddsDirectories before after places) (wider : ∀ location, places location → others location) :
    AddsDirectories before after others := by
  refine ⟨adds.current, adds.stored, ?_⟩
  intro location
  cases adds.node location with
  | inl same => exact .inl same
  | inr new => exact .inr ⟨new.1, new.2.1, wider location new.2.2⟩

theorem trans (first : AddsDirectories before after places) (second : AddsDirectories after later places) :
    AddsDirectories before later places := by
  refine ⟨second.current.trans first.current, second.stored.trans first.stored, ?_⟩
  intro location
  cases second.node location with
  | inl same => rw [same]; exact first.node location
  | inr new =>
    obtain ⟨absent, made, place⟩ := new
    cases first.node location with
    | inl same => exact .inr ⟨same ▸ absent, made, place⟩
    | inr earlier => rw [earlier.2.1] at absent; cases absent

theorem grows (adds : AddsDirectories before after places) : Grows before after := by
  refine ⟨adds.current, ?_, ?_⟩
  · intro location node there
    cases adds.node location with
    | inl same => rwa [same]
    | inr new => cases there.symm.trans new.1
  · intro location target isLink
    cases adds.node location with
    | inl same => rwa [← same]
    | inr new => cases isLink.symm.trans new.2.1

end AddsDirectories

theorem locateEntry_eq_ok : files.locateEntry path = .ok location ↔
    pathFault? path = none ∧ ∃ home, files.Arrives maxLinks (files.start path) (Path.parts path).dropLast home ∧
      files.look home ((Path.parts path).getLastD "") = .ok location := by
  rw [locateEntry]
  simp only [← walk_eq_ok]
  cases pathFault? path with
  | some fault => simp
  | none => cases files.walk maxLinks (files.start path) (Path.parts path).dropLast <;> simp

theorem locate_of_entry (entry : files.locateEntry path = .ok location)
    (plain : ∀ target, files.node? location ≠ some (.link target)) : files.locate path = .ok location := by
  obtain ⟨possible, home, arrives, looked⟩ := locateEntry_eq_ok.mp entry
  have whole := arrives.concat looked plain
  have joined : (Path.parts path).dropLast ++ [(Path.parts path).getLastD ""] = Path.parts path := by
    rw [List.getLastD_eq_getLast?, List.getLast?_eq_getLast_of_ne_nil (Path.parts_ne_nil path)]
    exact List.dropLast_concat_getLast (Path.parts_ne_nil path)
  exact locate_eq_ok.mpr ⟨possible, joined ▸ whole⟩

/-- A name that can be looked up in every directory and is a path by itself. -/
def IsEntry (name : String) : Prop :=
  Path.IsName name ∧ name.utf8ByteSize ≤ maxNameSize ∧ pathFault? name = none

instance : DecidablePred IsEntry := fun _ => inferInstanceAs (Decidable (_ ∧ _ ∧ _))

theorem IsEntry.pathFault? (entry : IsEntry name) : pathFault? (Path.join "." name) = none := by
  obtain ⟨_, short, possible⟩ := entry
  have joined : Path.join "." name = "./" ++ name := by simp [Path.join, ← String.toList_inj]
  have noZero : '\x00' ∉ name.toList := by
    intro inside
    simp [FileSystem.pathFault?, inside] at possible
  have bounded : "./".utf8ByteSize + name.utf8ByteSize ≤ maxPathSize :=
    (Nat.add_le_add_left short _).trans (by decide)
  simp [FileSystem.pathFault?, joined, noZero, bounded]

/-- Names can be looked up in the root, which relative paths start from. -/
structure AtRoot (files : FileSystem) : Prop where
  current : files.current = []
  readable : files.rootAccess.readFault? = none

theorem node?_empty (below : location ≠ []) : ({} : FileSystem).node? location = none := by
  simp [node?, below]

namespace AtRoot

variable (atRoot : files.AtRoot)
include atRoot

theorem start (path : String) : files.start path = [] := by
  rw [FileSystem.start, origin, atRoot.current, ite_self]

theorem look (entry : IsEntry name) : files.look [] name = .ok [name] := by
  obtain ⟨named, short, _⟩ := entry
  have nonempty : name.isEmpty = false := (Bool.or_eq_false_iff.mp named.moves).1
  exact look_eq_ok.mpr ⟨_, rfl, .inr ⟨nonempty, atRoot.readable, (step_name named).mpr ⟨short, rfl⟩⟩⟩

theorem look_dot : files.look [] "." = .ok [] :=
  look_eq_ok.mpr ⟨_, rfl, .inr ⟨by decide, atRoot.readable, step_of_staysPut (by decide) []⟩⟩

theorem arrives (entry : IsEntry name) (plain : ∀ target, files.node? [name] ≠ some (.link target)) :
    files.Arrives links [] [name] [name] :=
  .on (atRoot.look entry) plain (.here _ _)

theorem locate (entry : IsEntry name) (plain : ∀ target, files.node? [name] ≠ some (.link target)) :
    files.locate name = .ok [name] := by
  refine locate_eq_ok.mpr ⟨entry.2.2, ?_⟩
  rw [atRoot.start, Path.parts_of_slash_not_mem entry.1.plain]
  exact atRoot.arrives entry plain

theorem occupied (entry : IsEntry name) (free : files.node? [name] = none) : files.occupied name = false := by
  have located := atRoot.locate entry (by simp [free])
  simp [FileSystem.occupied, located, free]

theorem fileAt (entry : IsEntry name) (isFile : files.node? [name] = some (.file number)) :
    files.fileAt name = .ok number :=
  fileAt_eq_ok.mpr ⟨[name], atRoot.locate entry (by simp [isFile]), isFile⟩

theorem read (entry : IsEntry name) (isFile : files.node? [name] = some (.file number))
    (holds : files.stored[number]? = some { content := text.toUTF8 }) : files.read name = .ok text := by
  have decoded : String.fromUTF8? text.toUTF8 = some text := dif_pos text.isValidUTF8
  simp only [FileSystem.read, atRoot.fileAt entry isFile, holds, decoded]

/-- The root by itself need not be made. -/
theorem makeDirectories : files.makeDirectories "." = (files, none) := by
  have located : files.locateEntry (Path.withoutFinalSlashes ".") = .ok [] :=
    locateEntry_eq_ok.mpr ⟨by decide +kernel, [], atRoot.start "." ▸ .here _ _, atRoot.look_dot⟩
  have isThere : files.isDirectory "." = true := by
    simp [isDirectory, show files.locate "." = .ok [] from locate_of_entry located (by simp [node?]), node?]
  have made : files.makeDirectory "." = .ok files := by
    unfold makeDirectory
    rw [located]
    exact if_pos isThere
  have paths : Path.ancestors "." = ["."] := by decide +kernel
  rw [FileSystem.makeDirectories, show FileSystem.pathFault? "." = none by decide +kernel, paths]
  dsimp only [makeEach]
  rw [made]

end AtRoot

end ChangeCoupling.FileSystem
