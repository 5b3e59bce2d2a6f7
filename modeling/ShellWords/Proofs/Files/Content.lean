import ShellWords.Proofs.Files.Walk

/-!
# What stays of a tree of files

Making directories and opening a file only add to a tree where nothing was, and what they add is
empty (`FileTree.Extends`). Appending changes the content of one file. Neither moves anything, so a
path that leads to a file goes on to lead there (`FileTree.filePlace?_of_keeps`).
-/
namespace ShellWords

/-- An entry without what a file holds. -/
def Entry.hollow : Entry → Entry
  | file _ => file []
  | directory => directory
  | link target => link target

namespace FileTree

/-- The bytes of the file at a place. There are none where there is no file. -/
def content (tree : FileTree) (place : Location) : Bytes :=
  match tree.entry? place with
  | some (.file bytes) => bytes
  | _ => []

/-- The place of the regular file that a path leads to. -/
def filePlace? (tree : FileTree) (cwd : Location) (path : Text) : Option Location :=
  match tree.walk .find cwd path with
  | .ok (.present place (.file _)) => some place
  | _ => none

/-- What is there stays there, but for what files hold, and nothing else is refused. -/
structure Keeps (tree later : FileTree) : Prop where
  kept : ∀ place entry, tree.entry? place = some entry →
    ∃ entry', later.entry? place = some entry' ∧ entry'.hollow = entry.hollow
  refusal_eq : later.refusal? = tree.refusal?

/-- What is there stays there as it is, and no file is new but an empty one. -/
structure Extends (tree later : FileTree) : Prop where
  kept : ∀ place entry, tree.entry? place = some entry → later.entry? place = some entry
  content_eq : ∀ place, later.content place = tree.content place
  refusal_eq : later.refusal? = tree.refusal?

variable {tree middle later : FileTree} {cwd place : Location} {path : Text}

namespace Extends

theorem refl (tree : FileTree) : tree.Extends tree :=
  ⟨fun _ _ there => there, fun _ => rfl, rfl⟩

theorem trans (first : tree.Extends middle) (second : middle.Extends later) :
    tree.Extends later where
  kept place entry there := second.kept place entry (first.kept place entry there)
  content_eq place := (second.content_eq place).trans (first.content_eq place)
  refusal_eq := second.refusal_eq.trans first.refusal_eq

theorem keeps (grown : tree.Extends later) : tree.Keeps later where
  kept place entry there := ⟨entry, grown.kept place entry there, rfl⟩
  refusal_eq := grown.refusal_eq

end Extends

/-! ### Entries that are put -/

private theorem lookup_filter_ne (entries : List (Location × Entry)) {other : Location}
    (differs : other ≠ place) :
    (entries.filter fun item => item.1 ≠ place).lookup other = entries.lookup other := by
  induction entries with
  | nil => rfl
  | cons item entries ih =>
    obtain ⟨here, entry⟩ := item
    by_cases same : here = place
    · have missed : (other == here) = false := by simp [same, differs]
      simp only [List.filter_cons, ne_eq, same, not_true_eq_false, decide_false,
        Bool.false_eq_true, if_false, ih]
      rw [← same, List.lookup_cons, missed]
    · simp only [List.filter_cons, ne_eq, same, not_false_eq_true, decide_true, if_true,
        List.lookup_cons, ih]

theorem entry?_put_self (tree : FileTree) (below : place ≠ []) (entry : Entry) :
    entry? (tree.put place entry) place = some entry := by
  simp [ entry?, put, below]

theorem entry?_put_of_ne (tree : FileTree) (entry : Entry) {other : Location}
    (differs : other ≠ place) : entry? (tree.put place entry) other = tree.entry? other := by
  have missed : (other == place) = false := by simp [differs]
  simp only [ entry?, put, List.lookup_cons, missed, lookup_filter_ne _ differs]

/-- The root is always there. -/
private theorem ne_root_of_free (free : tree.entry? place = none) : place ≠ [] := by
  rintro rfl
  cases free

private theorem ne_root_of_file {bytes : Bytes} (file : tree.entry? place = some (.file bytes)) :
    place ≠ [] := by
  rintro rfl
  cases file

/-- Nothing is overwritten at a free place. -/
private theorem extends_put (free : tree.entry? place = none) {entry : Entry}
    (empty : ∀ bytes, entry = .file bytes → bytes = []) : tree.Extends (tree.put place entry) := by
  have added := entry?_put_self tree (ne_root_of_free free) entry
  refine ⟨?_, ?_, rfl⟩
  · intro other entry' there
    have differs : other ≠ place := by
      rintro rfl
      rw [free] at there
      cases there
    rw [entry?_put_of_ne tree entry differs, there]
  · intro other
    by_cases same : other = place
    · subst same
      cases entry with
      | file bytes =>
        obtain rfl := empty bytes rfl
        simp [content, added, free]
      | directory | link => simp [content, added, free]
    · simp only [content, entry?_put_of_ne tree entry same]

/-! ### Where walks end -/

/-- The tree has what a walk has come upon, if that is a file or nothing. -/
private def Meets (tree : FileTree) : Goal → Prop
  | .present place (.file bytes) => tree.entry? place = some (.file bytes)
  | .absent place => tree.entry? place = none
  | .present _ .directory | .present _ (.link _) => True

private theorem meets_of_walk {purpose : Purpose} {goal : Goal}
    (walked : tree.walk purpose cwd path = .ok goal) : tree.Meets goal := by
  refine goal_of_walk (fun _ => trivial) ?_ walked
  intro directory name after goal moves
  cases moves with
  | free named clear there => exact there
  | file named clear there => exact there

/-- There is a file at the place, or one could be made there. -/
private def Goal.Offers (place : Location) : Goal → Prop
  | .present here (.file _) => here = place
  | .absent here => here = place
  | .present _ .directory | .present _ (.link _) => False

private theorem Keeps.obstacle?_eq (keeps : tree.Keeps later) (purpose : Purpose)
    (directory : Location) (name : Text) (after : List Text) :
    later.obstacle? purpose directory name after = tree.obstacle? purpose directory name after := by
  rw [obstacle?, obstacle?, keeps.refusal_eq]

/-- Where there is a file later, a walk that came to the place before comes to the file. -/
private theorem walk_of_keeps (keeps : tree.Keeps later) {bytes : Bytes}
    (file : later.entry? place = some (.file bytes)) {purpose : Purpose} {goal : Goal}
    (walked : tree.walk purpose cwd path = .ok goal) (offers : goal.Offers place) :
    later.walk purpose cwd path = .ok (.present place (.file bytes)) := by
  -- Both walks see the same directories and links, up to the last name of all.
  refine walk_of_moves (Goal.Offers place) (fun _ => .present place (.file bytes))
    (fun _ offers => offers.elim) ?_ ?_ walked offers
  · intro directory name after goal offers moves
    cases moves with
    | free named clear there =>
      obtain rfl := offers
      exact .file named ((keeps.obstacle?_eq ..).trans clear) file
    | file named clear there =>
      obtain rfl := offers
      exact .file named ((keeps.obstacle?_eq ..).trans clear) file
  · intro directory name after m goesOn moves
    cases moves with
    | gap => exact .gap
    | dot clear => exact .dot ((keeps.obstacle?_eq ..).trans clear)
    | up clear => exact .up ((keeps.obstacle?_eq ..).trans clear)
    | free | file => exact absurd rfl (goesOn _)
    | into named clear there =>
      obtain ⟨entry, there', same⟩ := keeps.kept _ _ there
      cases entry <;> cases same
      exact .into named ((keeps.obstacle?_eq ..).trans clear) there'
    | along named clear there =>
      obtain ⟨entry, there', same⟩ := keeps.kept _ _ there
      cases entry <;> cases same
      exact .along named ((keeps.obstacle?_eq ..).trans clear) there'

theorem filePlace?_eq_some_iff :
    tree.filePlace? cwd path = some place ↔
      ∃ bytes, tree.walk .find cwd path = .ok (.present place (.file bytes)) := by
  rw [filePlace?]
  split
  · next here bytes walked => simp [walked]
  · next other =>
    refine iff_of_false nofun ?_
    rintro ⟨bytes, walked⟩
    exact other _ _ walked

/-- A path leads to a file only where there is one. -/
theorem file_of_filePlace? (leads : tree.filePlace? cwd path = some place) :
    ∃ bytes, tree.entry? place = some (.file bytes) := by
  obtain ⟨bytes, walked⟩ := filePlace?_eq_some_iff.mp leads
  exact ⟨bytes, meets_of_walk walked⟩

theorem filePlace?_of_keeps (keeps : tree.Keeps later)
    (leads : tree.filePlace? cwd path = some place) :
    later.filePlace? cwd path = some place := by
  obtain ⟨bytes, walked⟩ := filePlace?_eq_some_iff.mp leads
  obtain ⟨entry, there, same⟩ := keeps.kept _ _ (meets_of_walk walked : tree.Meets (.present _ _))
  cases entry <;> cases same
  exact filePlace?_eq_some_iff.mpr ⟨_, walk_of_keeps keeps there walked rfl⟩

/-! ### Directories, opened files, appended bytes -/

private theorem extends_makeDirectory {p : Path} (made : tree.makeDirectory cwd p = .ok later) :
    tree.Extends later := by
  rw [makeDirectory] at made
  dsimp only at made
  split at made
  · cases made
  · cases made
  · split at made
    · cases made
    · cases made
    · cases made
    · cases made
    · split at made
      · cases made
      · split at made
        · cases made
        · split at made
          · cases made
          · cases made
          · next free _ =>
            cases made
            exact extends_put free nofun

private theorem extends_settleDirectory (tree : FileTree) (cwd : Location) (p : Path) :
    tree.Extends (tree.settleDirectory cwd p).1 := by
  rw [settleDirectory]
  split
  · next made => exact extends_makeDirectory made
  -- An attempt that fails leaves the tree as it is, whatever it finds there.
  · split
    · exact .refl tree
    · split <;> exact .refl tree

theorem extends_makeDirectories (tree : FileTree) (cwd : Location) (p : Path) :
    tree.Extends (tree.makeDirectories cwd p).1 := by
  have every (names : List Text) :
      tree.Extends (tree.makeDirectoriesFrom cwd p.anchor names).1 := by
    induction names with
    | nil => exact extends_settleDirectory tree cwd _
    | cons name above ih =>
      rw [makeDirectoriesFrom]
      split
      · split
        · next made =>
          rw [made] at ih
          exact ih.trans (extends_settleDirectory _ cwd _)
        · next failed => exact ih
      · exact extends_settleDirectory tree cwd _
  exact every p.names.reverse

/-- A file that is opened is where its path leads, and empty if it is new. -/
theorem extends_openAppend (opened : tree.openAppend cwd path = .ok (place, later)) :
    tree.Extends later ∧ later.filePlace? cwd path = some place := by
  rw [openAppend] at opened
  split at opened
  · cases opened
  · next here bytes walked =>
    split at opened
    · cases opened
    · cases opened
      exact ⟨.refl tree, filePlace?_eq_some_iff.mpr ⟨bytes, walk_find_of_walk walked⟩⟩
  · cases opened
  · next here walked =>
    split at opened
    · cases opened
    · cases opened
      have free : tree.entry? place = none := meets_of_walk walked
      have grown : tree.Extends (tree.put place (.file [])) := by
        refine extends_put free ?_
        rintro bytes ⟨⟩
        rfl
      have file := entry?_put_self tree (ne_root_of_free free) (.file [])
      have found := walk_of_keeps grown.keeps file (walk_find_of_walk walked) rfl
      exact ⟨grown, filePlace?_eq_some_iff.mpr ⟨[], found⟩⟩

/-- Bytes that are appended to a file come after what it holds, and no other file changes. -/
theorem content_append {bytes : Bytes} (file : tree.entry? place = some (.file bytes))
    (more : Bytes) (other : Location) :
    (tree.append place more).content other =
      tree.content other ++ if other = place then more else [] := by
  rw [append, file]
  by_cases same : other = place
  · subst same
    simp [content, file, entry?_put_self tree (ne_root_of_file file)]
  · simp only [content, entry?_put_of_ne tree _ same, if_neg same, List.append_nil]

theorem keeps_append (tree : FileTree) (place : Location) (more : Bytes) :
    tree.Keeps (tree.append place more) := by
  rw [append]
  split
  · next bytes file =>
    refine ⟨fun other entry there => ?_, rfl⟩
    by_cases same : other = place
    · subst same
      rw [file] at there
      cases there
      exact ⟨_, entry?_put_self tree (ne_root_of_file file) _, rfl⟩
    · exact ⟨entry, by rw [entry?_put_of_ne tree _ same, there], rfl⟩
  · exact ⟨fun _ entry there => ⟨entry, there, rfl⟩, rfl⟩

end FileTree

end ShellWords
