import ShellWords.Proofs.Settings.Merge
import ShellWords.Proofs.Settings.Search
import ShellWords.Settings.Load

/-!
# Settings from several files

The search for settings is a search for regular files: the user's file, the nearest project file,
and the file that the environment names. `Sources` says which files these are and what they hold,
without looking for them; whatever can be loaded has sources (`exists_sources_of_load`). Loading
reads them one after the other, which is parsing their texts as one with line feeds between them
(`load_eq_parse_joined`); the first one with an error ends it.
-/
namespace ShellWords.Settings

/-! ### Where settings come from -/

/-- The file that the environment names, which an empty variable does not. -/
inductive IsVariableFile (around : Surroundings) : Option Text → Prop
  | unset : around.environment.lookup variableName = none → IsVariableFile around none
  | empty : around.environment.lookup variableName = some [] → IsVariableFile around none
  | set {value : Text} {path : Path} : around.environment.lookup variableName = some value →
      value ≠ [] → (Path.ofText value).expandHome around.homes = .ok path →
      IsVariableFile around (some path.text)

/-- What files hold that settings may come from. Those that are no regular files are left out. -/
inductive Contributes (tree : FileTree) (around : Surroundings) :
    List Text → List (Text × Text) → Prop
  | nil : Contributes tree around [] []
  | skip {path : Text} {paths : List Text} {files : List (Text × Text)} :
      tree.isFile around.cwd path = .ok false → Contributes tree around paths files →
      Contributes tree around (path :: paths) files
  | file {path t : Text} {paths : List Text} {files : List (Text × Text)} :
      tree.isFile around.cwd path = .ok true → tree.readText around.cwd path = .ok t →
      Contributes tree around paths files →
      Contributes tree around (path :: paths) ((path, t) :: files)

/-- The regular files that settings for a directory come from, with their texts, the ones that count
most last. -/
inductive Sources (tree : FileTree) (around : Surroundings) (directory : Text) :
    List (Text × Text) → Prop
  | located {place : Location} {project named : Option Text} {files : List (Text × Text)} :
      tree.resolve around.cwd directory = .ok place →
      SearchEnds tree place (.ok project) → IsVariableFile around named →
      Contributes tree around (around.userFile :: (project.toList ++ named.toList)) files →
      Sources tree around directory files

variable {tree : FileTree} {around : Surroundings}

private theorem variableFile?_eq {named : Option Text} (isNamed : IsVariableFile around named) :
    variableFile? around = .ok named := by
  cases isNamed with
  | unset missing => rw [variableFile?, missing]
  | empty empty => rw [variableFile?, empty]
  | set found notEmpty expanded =>
    rw [variableFile?, found]
    split
    · next missing => cases missing
    · next empty => exact absurd (Option.some.inj empty) notEmpty
    · next same =>
      cases same
      rw [expanded]
      rfl

private theorem isVariableFile_of_eq {named : Option Text}
    (found : variableFile? around = .ok named) :
    IsVariableFile around named := by
  rw [variableFile?] at found
  split at found
  · next missing =>
    cases found
    exact .unset missing
  · next empty =>
    cases found
    exact .empty empty
  · next value notEmpty set =>
    cases expanded : (Path.ofText value).expandHome around.homes with
    | error e => rw [expanded] at found; cases found
    | ok path =>
      rw [expanded] at found
      cases found
      exact .set set notEmpty expanded

/-! ### Reading them -/

/-- The texts of files as one, with line feeds between them. -/
def joinedText (files : List (Text × Text)) : Text :=
  List.intercalate ['\n'] (files.map Prod.snd)

private theorem loadFile_of_parsed {path t : Text} {s : Settings}
    (read : tree.readText around.cwd path = .ok t) (parsed : parse around.homes t = .ok s) :
    loadFile tree around path = .ok { s with source := some path } := by
  rw [loadFile, read]
  dsimp only
  rw [parsed]

private theorem loadFile_of_faulty {path t : Text} {e : SettingsError}
    (read : tree.readText around.cwd path = .ok t) (failed : parse around.homes t = .error e) :
    loadFile tree around path = .error (.settings e) := by
  rw [loadFile, read]
  dsimp only
  rw [failed]

/-- Files that can be parsed are merged as their joined text is, and the last one is named. -/
private theorem loadFiles_of_parsed {paths : List Text} {files : List (Text × Text)}
    (read : Contributes tree around paths files) (base : Settings)
    (parsed : ∀ file ∈ files, ∃ s, parse around.homes file.2 = .ok s) :
    ∃ s, parse around.homes (joinedText files) = .ok s ∧
      loadFiles tree around base paths =
        .ok (base.merge { s with source := files.getLast?.map Prod.fst }) := by
  induction read generalizing base with
  | nil => exact ⟨{}, rfl, by rw [loadFiles]; simp [merge_empty]⟩
  | skip isNoFile _ ih =>
    rw [loadFiles, isNoFile]
    exact ih base parsed
  | @file path t paths files isFile text _ ih =>
    -- This file with what was merged before it is the base for the files behind it.
    obtain ⟨⟨first, parsedFirst⟩, parsed⟩ := List.forall_mem_cons.mp parsed
    obtain ⟨later, parsedLater, loaded⟩ :=
      ih (base.merge { first with source := some path }) parsed
    rw [loadFiles, isFile]
    dsimp only
    rw [loadFile_of_parsed text parsedFirst]
    cases files with
    | nil =>
      obtain rfl : {} = later := Except.ok.inj parsedLater
      refine ⟨first, by simpa [joinedText] using parsedFirst, loaded.trans ?_⟩
      exact congrArg Except.ok (merge_empty _)
    | cons next files =>
      refine ⟨first.merge later, ?_, ?_⟩
      · have joined : joinedText ((path, t) :: next :: files) =
            t ++ '\n' :: joinedText (next :: files) := by
          simp [joinedText]
        rw [joined, parse_append, parsedFirst, parsedLater]
        rfl
      · -- There is a last file after this one, so which file is named does not change.
        obtain ⟨last, ends⟩ : ∃ last, (next :: files).getLast? = some last :=
          ⟨_, List.getLast?_eq_some_getLast (List.cons_ne_nil next files)⟩
        refine loaded.trans ?_
        rw [merge_assoc, List.getLast?_cons_cons, ends]
        rfl

/-- The first file that cannot be parsed ends the reading with its error. -/
private theorem loadFiles_of_faulty {paths : List Text} {files : List (Text × Text)}
    (read : Contributes tree around paths files) (base : Settings)
    (before after : List (Text × Text)) {path t : Text} {e : SettingsError}
    (cut : files = before ++ (path, t) :: after)
    (parsed : ∀ file ∈ before, ∃ s, parse around.homes file.2 = .ok s)
    (failed : parse around.homes t = .error e) :
    loadFiles tree around base paths = .error (.settings e) := by
  -- On the files; those before the faulty one get fewer with each that is read.
  induction read generalizing base before with
  | nil => simp at cut
  | skip isNoFile _ ih =>
    rw [loadFiles, isNoFile]
    exact ih base before cut parsed
  | file isFile text _ ih =>
    rw [loadFiles, isFile]
    dsimp only
    cases before with
    | nil =>
      obtain ⟨⟨rfl, rfl⟩, -⟩ : (_ = path ∧ _ = t) ∧ _ = after := by simpa using cut
      rw [loadFile_of_faulty text failed]
    | cons file before =>
      obtain ⟨rfl, later⟩ := List.cons.inj cut
      obtain ⟨⟨first, parsedFirst⟩, parsed⟩ := List.forall_mem_cons.mp parsed
      rw [loadFile_of_parsed text parsedFirst]
      exact ih _ before later parsed

/-! ### Loading -/

private theorem candidates_eq_ok_iff {directory : Text} {paths : List Text} :
    candidates tree around directory = .ok paths ↔
      ∃ place project named, tree.resolve around.cwd directory = .ok place ∧
        projectFile? tree place = .ok project ∧ variableFile? around = .ok named ∧
        paths = around.userFile :: (project.toList ++ named.toList) := by
  rw [candidates]
  -- Case by case, as the steps are taken: each may fail, and then there are no files.
  cases tree.resolve around.cwd directory with
  | error e => simp [Except.mapError, bind, Except.bind]
  | ok place =>
    cases searched : projectFile? tree place with
    | error e => simp [Except.mapError, bind, Except.bind, searched]
    | ok project =>
      cases variableFile? around with
      | error e => simp [Except.mapError, bind, Except.bind, searched]
      | ok named =>
        simp [Except.mapError, bind, Except.bind, pure, Except.pure, searched, eq_comm]

private theorem load_of_sources {directory : Text} {files : List (Text × Text)}
    (sources : Sources tree around directory files) :
    ∃ paths, Contributes tree around paths files ∧
      load tree around directory = loadFiles tree around {} paths := by
  obtain ⟨resolved, ends, isNamed, read⟩ := sources
  refine ⟨_, read, ?_⟩
  have found := candidates_eq_ok_iff.mpr ⟨_, _, _, resolved, projectFile?_eq_iff.mpr ends,
    variableFile?_eq isNamed, rfl⟩
  rw [load, found]

/-- What was read, if all files could be loaded. -/
private theorem exists_contributes_of_loadFiles {base s : Settings} {paths : List Text}
    (loaded : loadFiles tree around base paths = .ok s) :
    ∃ files, Contributes tree around paths files := by
  induction paths generalizing base with
  | nil => exact ⟨[], .nil⟩
  | cons path paths ih =>
    rw [loadFiles] at loaded
    split at loaded
    · cases loaded
    · next isNoFile =>
      obtain ⟨files, read⟩ := ih loaded
      exact ⟨files, .skip isNoFile read⟩
    · next isFile =>
      split at loaded
      · next overlay loadedFirst =>
        obtain ⟨files, read⟩ := ih loaded
        rw [loadFile] at loadedFirst
        split at loadedFirst
        · cases loadedFirst
        · next t text => exact ⟨(path, t) :: files, .file isFile text read⟩
      · cases loaded

/-- Settings that can be loaded have sources. -/
theorem exists_sources_of_load {directory : Text} {s : Settings}
    (loaded : load tree around directory = .ok s) :
    ∃ files, Sources tree around directory files := by
  rw [load] at loaded
  split at loaded
  · cases loaded
  · next found =>
    obtain ⟨place, project, named, resolved, searched, isNamed, rfl⟩ :=
      candidates_eq_ok_iff.mp found
    obtain ⟨files, read⟩ := exists_contributes_of_loadFiles loaded
    exact ⟨files, .located resolved (projectFile?_eq_iff.mp searched)
      (isVariableFile_of_eq isNamed) read⟩

/-- Settings are the settings in the joined texts of their files, if each of these can be parsed. -/
theorem load_of_parsed {directory : Text} {files : List (Text × Text)}
    (sources : Sources tree around directory files)
    (parsed : ∀ file ∈ files, ∃ s, parse around.homes file.2 = .ok s) :
    ∃ s, parse around.homes (joinedText files) = .ok s ∧
      load tree around directory = .ok { s with source := files.getLast?.map Prod.fst } := by
  obtain ⟨paths, read, loading⟩ := load_of_sources sources
  obtain ⟨s, joined, loaded⟩ := loadFiles_of_parsed read {} parsed
  exact ⟨s, joined, by rw [loading, loaded, empty_merge]⟩

/-- Loading settings is parsing the texts of their files as one, and naming the last file, even if
it sets nothing. The first text with an error ends it with that error, as in that text alone. -/
theorem load_eq_parse_joined {directory : Text} {files : List (Text × Text)}
    (sources : Sources tree around directory files) :
    ((∀ file ∈ files, ∃ s, parse around.homes file.2 = .ok s) →
      ∃ s, parse around.homes (joinedText files) = .ok s ∧
        load tree around directory = .ok { s with source := files.getLast?.map Prod.fst }) ∧
    ∀ before path t after e, files = before ++ (path, t) :: after →
      (∀ file ∈ before, ∃ s, parse around.homes file.2 = .ok s) →
      parse around.homes t = .error e → load tree around directory = .error (.settings e) := by
  refine ⟨load_of_parsed sources, fun before path t after e cut parsed failed => ?_⟩
  obtain ⟨paths, read, loading⟩ := load_of_sources sources
  rw [loading]
  exact loadFiles_of_faulty read {} before after cut parsed failed

/-- Three files, the second in the directory above and the third, in the home of another user,
without any setting. -/
theorem load_eq_parse_joined_three :
    let user : Text := "set verbose\nset comment-chars ;"
    let project : Text := "set comment-chars ''"
    let last : Text := "# nothing"
    let tree : FileTree := { entries := [(["home"], .directory),
      (["home", "config"], .file (Utf8.encode user)), (["root"], .directory),
      (["root", "last"], .file (Utf8.encode last)), (["work"], .directory),
      (["work", ".shellsplit"], .file (Utf8.encode project)), (["work", "sub"], .directory)] }
    let homes : Homes :=
      { ofUser? := fun user => if user = "root".toList then some "/root" else none }
    let around : Surroundings :=
      ⟨["work", "sub"], homes, "/home/config", [(variableName, "~root/last")]⟩
    Sources tree around "/work/sub"
      [("/home/config", user), ("/work/.shellsplit", project), ("/root/last", last)] ∧
    load tree around "/work/sub" =
      .ok { verbose := true, commentChars := some [], source := some "/root/last" } := by
  intro user project last tree homes around
  have nearest : SearchEnds tree ["work", "sub"] (.ok (some "/work/.shellsplit")) :=
    projectFile?_eq_iff.mp (by decide +kernel)
  have value : around.environment.lookup variableName = some "~root/last".toList := rfl
  have isNamed : IsVariableFile around (some (Path.mk .root ["root", "last"]).text) :=
    .set value (List.cons_ne_nil _ _) rfl
  have sources : Sources tree around "/work/sub"
      [("/home/config", user), ("/work/.shellsplit", project), ("/root/last", last)] :=
    .located (by decide +kernel) nearest isNamed
      (.file (by decide +kernel) (by decide +kernel)
        (.file (by decide +kernel) (by decide +kernel)
          (.file (by decide +kernel) (by decide +kernel) .nil)))
  have parsedUser : parse homes user = .ok { verbose := true, commentChars := some ";" } := by
    decide +kernel
  have parsedProject : parse homes project = .ok { commentChars := some [] } := by
    decide +kernel
  have parsedLast : parse homes last = .ok {} := by
    decide +kernel
  obtain ⟨s, joined, loaded⟩ := (load_eq_parse_joined sources).1 (by
    simp only [List.forall_mem_cons]
    exact ⟨⟨_, parsedUser⟩, ⟨_, parsedProject⟩, ⟨_, parsedLast⟩, List.forall_mem_nil _⟩)
  have parsedJoined : parse homes (user ++ '\n' :: (project ++ '\n' :: last)) =
      .ok { verbose := true, commentChars := some [] } := by
    rw [parse_append, parse_append, parsedUser, parsedProject, parsedLast]
    rfl
  obtain rfl := Except.ok.inj (joined.symm.trans parsedJoined)
  exact ⟨sources, loaded⟩

/-- The environment may name a file with a name too long to be looked up. Then loading fails,
although none of the files that settings may come from is there to be parsed. -/
theorem load_overlong_variable :
    let tree : FileTree := { entries := [(["work"], .directory)] }
    let named : Text := List.replicate 300 'a'
    let around : Surroundings := ⟨["work"], {}, "/home/config", [(variableName, named)]⟩
    tree.isFile around.cwd "/home/config" = .ok false ∧
      projectFile? tree ["work"] = .ok none ∧
      variableFile? around = .ok (some named) ∧
      (∀ file, tree.walk .find around.cwd named ≠ .ok file) ∧
      load tree around "/work" = .error (.unreadable (.file ⟨.nameTooLong, some named⟩)) := by
  intro tree named around
  refine ⟨by decide +kernel, by decide +kernel, by decide +kernel, fun file walked => ?_,
    by decide +kernel⟩
  have failed : tree.walk .find around.cwd named = .error .nameTooLong := by decide +kernel
  rw [failed] at walked
  cases walked

end ShellWords.Settings
