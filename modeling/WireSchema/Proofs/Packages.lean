import WireSchema.Proofs.Containment
import WireSchema.Proofs.QualifiedNames

/-! # Packages and directories

The namespace of a type is written into its source as a package, and it is cut into the directories
that the file is put into.  The two agree up to empty pieces: those have no directory.

* `PackageLine` — what a source says of its package, read off its text.
* `FileTree.HoldsFile` — a path leads to a file in given directories below the root.
* `package_matches_directories` — the pieces of the package of a written file, without the empty
  ones, are the directories that the file stands in.
-/

namespace WireSchema

open Output (ClassDecl SourceFile joinLines structImports)
open Path (Destination destination)

/-! ## Packages of sources -/

/-- What a source says of its package: the line that follows its banner and an empty line names
    one, or there is no such line. -/
inductive PackageLine (banner source : String) : Option String → Prop where
  | named {package rest : String} : source = banner ++ "\n\npackage " ++ package ++ ";\n" ++ rest →
      PackageLine banner source (some package)
  | absent : (∀ rest, source ≠ banner ++ "\n\npackage " ++ rest) → PackageLine banner source none

/-- The pieces of a package between its dots, empty ones included. -/
def packagePieces : Option String → List String
  | none => []
  | some package => (package.toList.splitOn '.').map String.ofList

/-- The package of a type that is placed in a namespace. -/
def statedPackage (placement : String) : Option String :=
  if placement = "" then none else some placement

theorem statedPackage_eq_none {placement : String} : statedPackage placement = none ↔ placement = "" := by
  unfold statedPackage
  split
  · next empty => simp [empty]
  · next placed => simp [placed]

theorem forall_mem_statedPackage {placement : String} {p : String → Prop} (holds : p placement) :
    ∀ name ∈ statedPackage placement, p name := by
  intro name stated
  unfold statedPackage at stated
  split at stated
  · cases stated
  · cases stated
    exact holds

variable {banner source : String} {package other : Option String}

theorem PackageLine.eq_none (absent : PackageLine banner source none)
    (line : PackageLine banner source package) : package = none := by
  cases line with
  | absent _ => rfl
  | @named name rest spelled =>
    cases absent with
    | absent none =>
      exact absurd (by simpa [String.append_assoc] using spelled) (none (name ++ (";\n" ++ rest)))

/-- A source names at most one package in a single line. -/
theorem PackageLine.unique (line : PackageLine banner source package)
    (line' : PackageLine banner source other) (single : ∀ name ∈ package, '\n' ∉ name.toList)
    (single' : ∀ name ∈ other, '\n' ∉ name.toList) : other = package := by
  cases package with
  | none => exact line.eq_none line'
  | some name =>
    cases other with
    | none => exact (line'.eq_none line).symm
    | some name' =>
      obtain ⟨spelled⟩ := line
      obtain ⟨spelled'⟩ := line'
      have ends (name rest : String) : (banner ++ "\n\npackage " ++ name ++ ";\n" ++ rest).toList =
          (banner ++ "\n\npackage ").toList ++ ((name ++ ";").toList ++ '\n' :: rest.toList) := by
        simp
      have oneLine {name : String} (single : '\n' ∉ name.toList) : '\n' ∉ (name ++ ";").toList := by
        simpa using single
      rw [spelled, ← String.toList_inj, ends, ends, List.append_cancel_left_eq,
        append_cons_inj_of_first (oneLine (single name rfl)) (oneLine (single' name' rfl))]
        at spelled'
      have same : name = name' := by simpa [← String.toList_inj] using spelled'.1
      rw [same]

/-! ## Texts of sources -/

theorem joinLines_cons (line : String) (lines : List String) :
    joinLines (line :: lines) = line ++ "\n" ++ joinLines lines := by
  simp [joinLines]

/-- A source says its package, if its imports and its type do not start like a statement that names
    one. -/
theorem packageLine_text (banner placement : String) {imports body : List String}
    (opens : ∀ rest, joinLines (SourceFile.importLines imports ++ body) ≠ "package " ++ rest) :
    PackageLine banner (SourceFile.mk banner placement imports body).text
      (statedPackage placement) := by
  have whole : (SourceFile.mk banner placement imports body).text.toList =
      banner.toList ++ '\n' :: '\n' :: (joinLines (SourceFile.placementLines placement ++
        (SourceFile.importLines imports ++ body))).toList := by
    simp [SourceFile.text, joinLines_cons]
  unfold statedPackage SourceFile.placementLines at *
  by_cases empty : placement = ""
  · rw [if_pos empty]
    apply PackageLine.absent
    intro rest same
    apply opens rest
    rw [← String.toList_inj, whole] at same
    simpa [empty, ← String.toList_inj] using same
  · rw [if_neg empty]
    have spelled : (SourceFile.mk banner placement imports body).text =
        banner ++ "\n\npackage " ++ placement ++ ";\n" ++
          ("\n" ++ joinLines (SourceFile.importLines imports ++ body)) := by
      rw [← String.toList_inj, whole]
      simp [empty, joinLines_cons]
    exact .named spelled

/-- The source of a type names the namespace that the type is placed in. -/
theorem RendersTo.packageLine {modules : List Module} {config : Config} {module : Module}
    {declaration : Declaration} {file : RenderedFile}
    (rendered : RendersTo modules config module declaration file) :
    PackageLine config.banner file.contents (statedPackage file.placement) := by
  -- sources of structs go on with imports, and those of enums with a modifier
  cases declaration with
  | struct struct =>
    obtain ⟨_, _, decl, _, spelled⟩ := rendersTo_struct.mp rendered
    rw [spelled]
    apply packageLine_text config.banner file.placement
    intro rest same
    have start := congrArg (fun text => text.toList.take 2) same
    simp [SourceFile.importLines, structImports, joinLines_cons] at start
  | enum enum =>
    simp only [RendersTo, Scope.renderDeclaration, Scope.sourceOf, Logged.bind_outcome_ok,
      Logged.outcome_pure, Except.ok.injEq] at rendered
    obtain ⟨_, _, contents, rfl, rfl⟩ := rendered
    apply packageLine_text config.banner
    intro rest same
    have start := congrArg (fun text => text.toList.take 2) same
    simp [SourceFile.importLines, Output.EnumClass.lines, joinLines_cons] at start

/-! ## Directories -/

theorem Text.splitAt_eq_splitOn (separator : Char) (cs : List Char) :
    Text.splitAt separator cs = cs.splitOn separator := by
  induction cs with
  | nil => rfl
  | cons c cs inductionHypothesis =>
    rw [List.splitOn_cons_eq_if_modifyHead, ← inductionHypothesis]
    simp only [Text.splitAt, beq_iff_eq]
    cases pieces : Text.splitAt separator cs with
    | nil => exact absurd pieces (Text.splitAt_ne_nil separator cs)
    | cons piece more => rfl

/-- The directories of a namespace are the pieces of its package, without the empty ones. -/
theorem segments_eq (placement : String) :
    segments placement = (packagePieces (statedPackage placement)).filter (· ≠ "") := by
  unfold statedPackage
  by_cases empty : placement = ""
  · subst empty
    rfl
  · rw [if_neg empty, segments, packagePieces, Text.splitAt_eq_splitOn, List.filter_map]
    congr 2
    funext piece
    simp

/-! ## Places of files -/

namespace FileTree

variable {tree before after : FileTree} {root path name : String} {directories : List String}
  {contents : ByteArray}

/-- The path leads to a file of the given name, which stands in the given directories below the
    root, outermost first. -/
def HoldsFile (tree : FileTree) (root path : String) (directories : List String) (name : String) :
    Prop :=
  ∃ place contents, place = name :: (directories.reverse ++ tree.placeOf (destination root)) ∧
    tree.locate path = .ok place ∧ tree.find? place = some (.file contents)

/-- The directories of a file follow from the place that its path leads to. -/
theorem HoldsFile.unique {others : List String}
    (holds : tree.HoldsFile root path directories name)
    (holds' : tree.HoldsFile root path others name) : others = directories := by
  obtain ⟨place, _, split, located, _⟩ := holds
  obtain ⟨place', _, split', located', _⟩ := holds'
  have same : place' = place := Except.ok.inj (located'.symm.trans located)
  rw [same, split, List.cons.injEq] at split'
  simpa using split'.2.symm

theorem placeOf_inside (tree : FileTree) (destination : Destination) (names : List String) :
    tree.placeOf { destination with names := names ++ destination.names } =
      names ++ tree.placeOf destination := by
  unfold placeOf
  split
  · rfl
  · rw [List.append_assoc]

/-- A file stays in its place, though another one may be written over it. -/
theorem HoldsFile.of_changes {places : Location → Prop} (changes : before.Changes after places)
    (holds : before.HoldsFile root path directories name) :
    after.HoldsFile root path directories name := by
  obtain ⟨place, contents, split, located, there⟩ := holds
  have start : after.placeOf (destination root) = before.placeOf (destination root) := by
    unfold placeOf
    rw [changes.workingDirectory]
  rw [← start] at split
  -- the place keeps its file, or another file has been put over it
  obtain same | ⟨absent, _⟩ | ⟨_, _, other, put⟩ := changes.entry place
  · exact ⟨place, contents, split, changes.locate located, same.trans there⟩
  · rw [there] at absent
    cases absent
  · exact ⟨place, other, split, changes.locate located, put⟩

/-- What is written goes by a name, not by a step to another directory. -/
theorem getLast?_steps_of_writeFile (written : tree.writeFile path contents = .ok after) :
    ∃ name, (Path.steps path).getLast? = some (.into name) := by
  simp only [writeFile, bind_eq_ok] at written
  obtain ⟨⟨location, step⟩, last, written⟩ := written
  simp only [locateLast, bind_eq_ok] at last
  obtain ⟨_, _, last⟩ := last
  split at last
  · cases last
    cases written
  · next final earlier reversed =>
    simp only [bind_eq_ok] at last
    obtain ⟨directory, _, equal⟩ := last
    cases equal
    rw [List.getLast?_eq_head?_reverse, reversed, List.head?_cons]
    cases final with
    | into name => exact ⟨name, rfl⟩
    | stay | up =>
      simp only [bind_eq_ok] at written
      obtain ⟨_, _, refused⟩ := written
      cases refused

theorem ne_empty_of_locate {place : Location} (located : tree.locate path = .ok place) :
    path ≠ "" := by
  rintro rfl
  cases located

/-- A name without slashes that a file is saved under names the file, and no directory. -/
theorem name_of_saves {directory : String}
    (saves : before.Saves (Path.push directory name) contents after)
    (noSlash : '/' ∉ name.toList) : name ≠ "" ∧ name ≠ "." ∧ name ≠ ".." := by
  obtain ⟨made, _, written⟩ := saves
  obtain ⟨final, last⟩ := getLast?_steps_of_writeFile written
  obtain ⟨noEnd, place, _, located, _⟩ := writeFile_eq_ok written
  have relative := Path.isAbsolute_of_name noSlash
  rw [Path.steps_push relative] at last
  refine ⟨?_, ?_, ?_⟩
  · -- without a name the path is that of the directory, with a slash at its end
    rintro rfl
    obtain ⟨rfl, joined⟩ | ⟨_, _, joined⟩ | ⟨_, joined⟩ := Path.push_cases directory relative
    · exact ne_empty_of_locate located joined
    · simp [Path.endsInSlash, joined] at noEnd
    · simp [Path.endsInSlash, joined] at noEnd
  · rintro rfl
    have step : Path.steps "." = [.stay] := by decide
    simp [step] at last
  · rintro rfl
    have step : Path.steps ".." = [.up] := by decide
    simp [step] at last

end FileTree

section

variable {modules : List Module} {config : Config} {declared : Declared} {types : List Declared}
  {written : WrittenFile} {files : List WrittenFile} {before after tree : FileTree}

/-- A written file stands in the directories of its namespace. -/
theorem Writes.holdsFile (writes : Writes modules config declared written before after)
    (noSlash : '/' ∉ (declared.name ++ config.extension).toList) :
    after.HoldsFile config.outDir written.path (segments written.file.placement)
      (declared.name ++ config.extension) := by
  obtain ⟨directory, path, inwards⟩ := outputPath_eq_ok writes.placed
  have saved := writes.saved
  rw [path] at saved
  obtain ⟨named, moves⟩ := FileTree.name_of_saves saved noSlash
  obtain ⟨_, place, located, there⟩ := writes.saved.exists_place
  have relative := Path.isAbsolute_of_name noSlash
  have leads : place = after.placeOf (destination written.path) := FileTree.locate_eq located
  refine ⟨place, _, ?_, located, there⟩
  rw [leads, path, Path.destination_push directory relative,
    Path.destination_of_step relative (Path.steps_of_name named moves noSlash), inwards,
    writes.rendered.labels.2, ← List.cons_append, ← FileTree.placeOf_inside]
  simp [Destination.followedBy]
  rfl

/-- Every file of a walk has been written at some time, and nothing moves it afterwards. -/
theorem WritesAll.exists_writes (writes : WritesAll modules config types files before after)
    (member : written ∈ files) :
    ∃ declared ∈ types, ∃ earlier later, Writes modules config declared written earlier later ∧
      later.Changes after fun _ => True := by
  induction writes with
  | nil => cases member
  | @cons declared _ _ _ earlier later _ wrote rest inductionHypothesis =>
    rcases List.mem_cons.mp member with rfl | member
    · exact ⟨declared, List.mem_cons_self, earlier, later, wrote,
        rest.changes.mono fun _ _ => trivial⟩
    · obtain ⟨other, listed, found⟩ := inductionHypothesis member
      exact ⟨other, List.mem_cons_of_mem _ listed, found⟩

theorem mem_files_of_wrote {events : List Event} {path : String} {bytes : Nat}
    (logged : events.filterMap Event.written? = files.map WrittenFile.entry)
    (wrote : .wrote path bytes ∈ events) : ∃ written ∈ files, written.path = path := by
  have listed : (path, bytes) ∈ events.filterMap Event.written? :=
    List.mem_filterMap.mpr ⟨_, wrote, rfl⟩
  rw [logged] at listed
  obtain ⟨written, member, entry⟩ := List.mem_map.mp listed
  exact ⟨written, member, congrArg Prod.fst entry⟩

/-- Every path that the log of a run names as written is the path of a type. -/
theorem exists_writes_of_wrote {path : String} {bytes : Nat}
    (wrote : .wrote path bytes ∈ ((generate modules config).run tree).events) :
    ∃ declared ∈ Declared.all modules, ∃ written earlier later, written.path = path ∧
      Writes modules config declared written earlier later ∧
      later.Changes ((generate modules config).run tree).tree fun _ => True := by
  have ends := ends_generate modules config tree
  generalize (generate modules config).run tree = run at ends wrote ⊢
  cases ends with
  | finished writes logged =>
    obtain ⟨written, member, named⟩ := mem_files_of_wrote logged wrote
    obtain ⟨declared, listed, earlier, later, found, changes⟩ := writes.exists_writes member
    exact ⟨declared, listed, written, earlier, later, named, found, changes⟩
  | stopped split writes fails logged =>
    obtain ⟨written, member, named⟩ := mem_files_of_wrote logged wrote
    obtain ⟨declared, listed, earlier, later, found, changes⟩ := writes.exists_writes member
    exact ⟨declared, split ▸ List.mem_append_left _ listed, written, earlier, later, named, found,
      changes.trans fails.changes⟩

/-- A run puts every file that it writes into the directories that its package names: one for every
    piece of the package that is not empty.  Where no piece is empty, the package says the
    directories exactly, and it is left out exactly at the root. -/
theorem package_matches_directories {path : String} {bytes : Nat}
    (wrote : .wrote path bytes ∈ ((generate modules config).run tree).events) :
    ∃ declared ∈ Declared.all modules, ∃ file package directories,
      RendersTo modules config declared.home declared.declaration file ∧
      file.typeName = declared.name ∧
      outputPath config.outDir config.extension file.placement file.typeName = .ok path ∧
      ('/' ∉ (file.typeName ++ config.extension).toList →
        ((generate modules config).run tree).tree.HoldsFile config.outDir path directories
          (file.typeName ++ config.extension)) ∧
      package = statedPackage file.placement ∧
      PackageLine config.banner file.contents package ∧
      ('\n' ∉ file.placement.toList →
        ∀ other, PackageLine config.banner file.contents other →
          (∀ name ∈ other, '\n' ∉ name.toList) → other = package) ∧
      (PackageLine config.banner file.contents none ↔ file.placement = "") ∧
      directories = (packagePieces package).filter (· ≠ "") ∧
      ((∀ piece ∈ packagePieces package, piece ≠ "") →
        packagePieces package = directories ∧
          (PackageLine config.banner file.contents none ↔ directories = [])) := by
  obtain ⟨declared, listed, written, earlier, later, rfl, writes, changes⟩ :=
    exists_writes_of_wrote wrote
  obtain ⟨name, placement⟩ := writes.rendered.labels
  have line := writes.rendered.packageLine
  have absent : PackageLine config.banner written.file.contents none ↔
      statedPackage written.file.placement = none :=
    ⟨fun absent => absent.eq_none line, fun none => none ▸ line⟩
  refine ⟨declared, listed, written.file, _, segments written.file.placement, writes.rendered,
    name, ?_, ?_, rfl, line, ?_, absent.trans statedPackage_eq_none, segments_eq _, ?_⟩
  · rw [name, placement]
    exact writes.placed
  · intro noSlash
    rw [name] at noSlash ⊢
    exact (writes.holdsFile noSlash).of_changes changes
  · intro single other line' single'
    exact line.unique line' (forall_mem_statedPackage single) single'
  · intro full
    rw [absent, segments_eq, List.filter_eq_self.mpr (by simpa using full)]
    refine ⟨rfl, ?_⟩
    cases statedPackage written.file.placement with
    | none => simp [packagePieces]
    | some name => simp [packagePieces, List.splitOn_ne_nil]

end

namespace Sample

/-- A module whose namespace has two names, with an empty one between them. -/
def gap : Module := ⟨"gap.sp", "game..item", [.empty "Crate"], []⟩

/-- A module whose namespace is a separator, between nothing and nothing. -/
def dot : Module := ⟨"dot.sp", ".", [.empty "Crate"], []⟩

theorem wrote_gap : .wrote "out/game/item/Crate.java" 575 ∈
    ((generate [gap] (.writingTo "out")).run (.empty ["work"])).events := by decide +kernel

theorem wrote_dot : .wrote "out/Crate.java" 566 ∈
    ((generate [dot] (.writingTo "out")).run (.empty ["work"])).events := by decide +kernel

end Sample

open Sample in
theorem package_matches_directories_gap :
    .wrote "out/game/item/Crate.java" 575 ∈
        ((generate [gap] (.writingTo "out")).run (.empty ["work"])).events ∧
      ∃ file, RendersTo [gap] (.writingTo "out") gap (.struct (.empty "Crate")) file ∧
        PackageLine (Config.writingTo "out").banner file.contents (some "game..item") ∧
        ((generate [gap] (.writingTo "out")).run (.empty ["work"])).tree.HoldsFile "out"
          "out/game/item/Crate.java" ["game", "item"] "Crate.java" := by
  refine ⟨wrote_gap, ?_⟩
  obtain ⟨declared, listed, file, package, directories, rendered, name, _, holds, stated, line, _,
    _, pieces, _⟩ := package_matches_directories wrote_gap
  cases List.mem_singleton.mp listed
  have placed : file.placement = "game..item" := rendered.labels.2
  rw [placed] at stated
  subst stated pieces
  rw [name] at holds
  exact ⟨file, rendered, line, holds (by decide)⟩

open Sample in
/-- The separator of packages, as a package of its own, is written into a source that stands in the
    root itself. -/
theorem empty_pieces_are_no_directories :
    .wrote "out/Crate.java" 566 ∈
        ((generate [dot] (.writingTo "out")).run (.empty ["work"])).events ∧
      '/' ∉ ("Crate" ++ (Config.writingTo "out").extension).toList ∧
      ∃ file, RendersTo [dot] (.writingTo "out") dot (.struct (.empty "Crate")) file ∧
        outputPath "out" ".java" file.placement file.typeName = .ok "out/Crate.java" ∧
        PackageLine (Config.writingTo "out").banner file.contents (some ".") ∧
        ((generate [dot] (.writingTo "out")).run (.empty ["work"])).tree.HoldsFile "out"
          "out/Crate.java" [] "Crate.java" ∧
        ¬ ∃ package directories,
          PackageLine (Config.writingTo "out").banner file.contents package ∧
          (∀ name ∈ package, '\n' ∉ name.toList) ∧
          ((generate [dot] (.writingTo "out")).run (.empty ["work"])).tree.HoldsFile "out"
            "out/Crate.java" directories "Crate.java" ∧
          (packagePieces package = directories ∨ (package = none ↔ directories = [])) := by
  have rendered : RendersTo [dot] (.writingTo "out") dot (.struct (.empty "Crate")) _ := rfl
  have line := rendered.packageLine
  have stated : statedPackage ((Scope.ofModule [dot] (.writingTo "out") dot).placementOf dot
      (.struct (.empty "Crate"))) = some "." := rfl
  rw [stated] at line
  have held : ((generate [dot] (.writingTo "out")).run (.empty ["work"])).tree.HoldsFile "out"
      "out/Crate.java" [] "Crate.java" :=
    ⟨["Crate.java", "out", "work"], _, rfl, by decide +kernel, rfl⟩
  refine ⟨wrote_dot, by decide, _, rendered, by decide +kernel, line, held, ?_⟩
  rintro ⟨package, directories, line', single, holds, agrees⟩
  have same : package = some "." := line.unique line' (by decide) single
  have root : directories = [] := held.unique holds
  subst same root
  revert agrees
  decide

end WireSchema
