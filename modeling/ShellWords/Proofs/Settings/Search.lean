import Mathlib.Logic.Function.Iterate
import ShellWords.Proofs.Files.Walk
import ShellWords.Proofs.Path
import ShellWords.Settings.Search

/-!
# The search for a project file

The search goes from a directory to its parent until a file is found, one cannot be looked at, or
the root is passed, which is its own parent. So many rounds as the directory has names, and one
more, end it with what the recursion over the names gives (`Search.iterate_step`). `SearchEnds` says
what that is without going through the names one by one (`projectFile?_eq_iff`). From a location
that is resolved, a project file is found where the tree has one: a file in a directory or a link to
one, but no directory (`isFile_projectFileIn_iff`).
-/
namespace ShellWords

namespace FileTree

/-- A name leads from a directory into one below it. -/
structure Enters (tree : FileTree) (directory : Location) (name : Text) : Prop where
  clear : tree.obstacle? .find directory name [] = none
  there : tree.entry? (directory ++ [name]) = some .directory

/-- An entry of a directory stands for a regular file: it is one, or a link that leads to one. -/
inductive IsFileEntry (tree : FileTree) (directory : Location) : Entry → Prop
  | file {content : Bytes} : IsFileEntry tree directory (.file content)
  | link {target : Text} {goal : Location} {content : Bytes} :
      tree.walkFrom .find (linkLimit - 1) (linkStart directory target) (Path.components target) =
        .ok (.present goal (.file content)) → IsFileEntry tree directory (.link target)

/-- There is a regular file of this name in a directory that is there itself, and nothing keeps it
from being looked up. -/
structure HasFile (tree : FileTree) (directory : Location) (name : Text) : Prop where
  inDirectory : ∀ above part, above ++ [part] <+: directory → tree.Enters above part
  clear : tree.obstacle? .find directory name [] = none
  short : (Location.path (directory ++ [name])).size < pathLimit
  isFile : ∃ entry, tree.entry? (directory ++ [name]) = some entry ∧
    tree.IsFileEntry directory entry

/-- A location as resolving leaves it: no link is on the way to it, and no name leads up. -/
structure IsResolved (tree : FileTree) (place : Location) : Prop where
  normal : (Path.mk .root place).IsNormal
  noneUp : ['.', '.'] ∉ place
  noNul : ∀ name ∈ place, '\x00' ∉ name
  noLink : ∀ above, above <+: place → ∀ target, tree.entry? above ≠ some (.link target)

variable {tree : FileTree} {place : Location}

private theorem IsResolved.of_prefix (resolved : tree.IsResolved place) {above : Location}
    (begins : above <+: place) : tree.IsResolved above where
  normal name listed := resolved.normal name (begins.subset listed)
  noneUp listed := resolved.noneUp (begins.subset listed)
  noNul name listed := resolved.noNul name (begins.subset listed)
  noLink higher inside := resolved.noLink higher (inside.trans begins)

/-! ### Paths of resolved locations -/

private theorem start_path (normal : (Path.mk .root place).IsNormal) (cwd : Location) :
    start cwd (Location.path place) = [] := by
  rw [start, Location.path, Path.ofText_text normal]
  rfl

private theorem path_eq (place : Location) :
    Location.path place = '/' :: List.intercalate ['/'] place := by
  rw [Location.path, Path.text, if_neg (by simp)]
  rfl

private theorem components_path {name : Text}
    (normal : (Path.mk .root (place ++ [name])).IsNormal) :
    Path.components (Location.path (place ++ [name])) = [] :: (place ++ [name]) := by
  have apart : ∀ part ∈ [] :: (place ++ [name]), '/' ∉ part :=
    List.forall_mem_cons.mpr ⟨by simp, fun part listed => (normal part listed).2.2⟩
  have whole : Location.path (place ++ [name]) =
      List.intercalate ['/'] ([] :: (place ++ [name])) := by
    obtain ⟨first, others, same⟩ := List.exists_cons_of_ne_nil (List.concat_ne_nil name place)
    rw [path_eq, same, List.intercalate_cons_cons]
    rfl
  rw [Path.components, whole, List.splitOn_intercalate '/' apart (List.cons_ne_nil _ _)]

private theorem pathFault?_path {names : Location} (clean : ∀ part ∈ names, '\x00' ∉ part) :
    pathFault? (Location.path names) =
      if pathLimit ≤ (Location.path names).size then some .nameTooLong else none := by
  have noNul : '\x00' ∉ Location.path names := by
    rw [path_eq]
    intro member
    rcases List.mem_cons.mp member with slash | inside
    · cases slash
    · rcases Text.mem_intercalate inside with slash | ⟨part, listed, inPart⟩
      · cases List.mem_singleton.mp slash
      · exact clean part listed inPart
  have notEmpty : (Location.path names).isEmpty = false := by rw [path_eq]; rfl
  rw [pathFault?, notEmpty]
  simp [noNul]

/-- Names without links among them are taken as they are. -/
private theorem resolveWith_of_noLink
    (follow : Location → Location → List Text → Except FileFault Resolved)
    (base names : Location) (noneUp : ['.', '.'] ∉ names) (noNul : ∀ name ∈ names, '\x00' ∉ name)
    (noLink : ∀ above, above <+: names → ∀ target,
      tree.entry? (base ++ above) ≠ some (.link target)) :
    tree.resolveWith follow base names = .ok (.place (base ++ names)) := by
  induction names generalizing base with
  | nil => rw [List.append_nil]; rfl
  | cons name names ih =>
    obtain ⟨notUp, noneUp⟩ := List.ne_and_not_mem_of_not_mem_cons noneUp
    obtain ⟨clean, noNul⟩ := List.forall_mem_cons.mp noNul
    have here := noLink [name] (by simp)
    have later := ih (base ++ [name]) noneUp noNul fun above begins target => by
      have deeper := noLink (name :: above) (List.cons_prefix_cons.mpr ⟨rfl, begins⟩) target
      simpa using deeper
    rw [resolveWith, if_neg notUp.symm, if_neg (by simpa using clean)]
    dsimp only
    split
    · next target shown =>
      -- Only what is there is shown.
      rw [shown?] at shown
      split at shown
      · cases shown
      · exact absurd shown (here target)
    · rw [later, List.append_assoc]
      rfl

/-- Resolving leads from a resolved location nowhere else. -/
private theorem eq_of_resolve_path (resolved : tree.IsResolved place) {cwd found : Location}
    (leads : tree.resolve cwd (Location.path place) = .ok found) : found = place := by
  have names : Path.namesOf (Location.path place) = place :=
    congrArg Path.names (Path.ofText_text resolved.normal)
  rw [resolve, start_path resolved.normal, names,
    resolveWith_of_noLink _ [] place resolved.noneUp resolved.noNul resolved.noLink] at leads
  change tree.settle place = .ok found at leads
  rw [settle] at leads
  split at leads <;> cases leads
  rfl

/-! ### Files in resolved locations -/

private theorem forall_prefix_cons_iff {P : Location → Prop} {name : Text} {names : Location} :
    (∀ above, above <+: name :: names → P above) ↔
      P [] ∧ ∀ above, above <+: names → P (name :: above) := by
  constructor
  · intro all
    exact ⟨all [] List.nil_prefix,
      fun above begins => all _ (List.cons_prefix_cons.mpr ⟨rfl, begins⟩)⟩
  · rintro ⟨first, others⟩ above begins
    rcases List.prefix_cons_iff.mp begins with rfl | ⟨rest, rfl, inside⟩
    · exact first
    · exact others rest inside

private theorem forall_step_cons_iff {P : Location → Text → Prop} {name : Text} {names : Location} :
    (∀ above part, above ++ [part] <+: name :: names → P above part) ↔
      P [] name ∧ ∀ above part, above ++ [part] <+: names → P (name :: above) part := by
  constructor
  · intro all
    exact ⟨all [] name (by simp),
      fun above part begins => all _ _ (List.cons_prefix_cons.mpr ⟨rfl, begins⟩)⟩
  · rintro ⟨first, others⟩ above part begins
    cases above with
    | nil =>
      obtain ⟨rfl, -⟩ := List.cons_prefix_cons.mp begins
      exact first
    | cons here above =>
      obtain ⟨rfl, inside⟩ := List.cons_prefix_cons.mp begins
      exact others above part inside

/-- Where nothing is to be made, what comes after a name does not matter. -/
private theorem obstacle?_find (directory : Location) (name : Text) (after : List Text) :
    tree.obstacle? .find directory name after = tree.obstacle? .find directory name [] := by
  simp only [obstacle?, reduceCtorEq, false_and, if_false]

/-- A name with more behind it does not end a walk, so what it is no link for is a directory. -/
private theorem enters_of_moves {directory : Location} {name : Text} {after : List Text} {m : Move}
    (named : name ∉ [[], ['.'], ['.', '.']]) (more : after ≠ [])
    (noLink : ∀ target, tree.entry? (directory ++ [name]) ≠ some (.link target))
    (moves : Moves tree .find directory name after m) : tree.Enters directory name := by
  cases moves with
  | gap | dot | up => simp at named
  | free | file => exact absurd rfl more
  | into _ clear there => exact ⟨(obstacle?_find ..).symm.trans clear, there⟩
  | along _ _ there => exact absurd there (noLink _)

/-- A walk that meets no link before its last name leads to a file if it goes through directories
up to there. By induction on the names before the last one. -/
private theorem walkWith_concat_iff (enter : Location → List Text → Except FileFault Goal)
    (base names : Location) {name : Text}
    (named : ∀ part ∈ names, part ∉ [[], ['.'], ['.', '.']])
    (noLink : ∀ above, above <+: names → ∀ target,
      tree.entry? (base ++ above) ≠ some (.link target))
    (goal : Location) (content : Bytes) :
    tree.walkWith .find enter base (names ++ [name]) = .ok (.present goal (.file content)) ↔
      (∀ above part, above ++ [part] <+: names → tree.Enters (base ++ above) part) ∧
        tree.walkWith .find enter (base ++ names) [name] =
          .ok (.present goal (.file content)) := by
  induction names generalizing base with
  | nil =>
    have nothing : ∀ above part, above ++ [part] <+: [] → tree.Enters (base ++ above) part := by
      intro above part begins
      exact absurd (List.prefix_nil.mp begins) (List.append_ne_nil_of_right_ne_nil _ (by simp))
    rw [List.nil_append, List.append_nil, and_iff_right nothing]
  | cons first names ih =>
    obtain ⟨firstNamed, named⟩ := List.forall_mem_cons.mp named
    rw [forall_prefix_cons_iff] at noLink
    rw [forall_step_cons_iff]
    have deeper := ih (base ++ [first]) named
    simp only [List.append_assoc, List.singleton_append] at deeper
    rw [List.append_nil, List.cons_append, walkWith]
    by_cases enters : tree.Enters base first
    · have moves : tree.move .find base first (names ++ [name]) = .ok (.into (base ++ [first])) :=
        move_eq_ok_iff.mpr (.into firstNamed ((obstacle?_find ..).trans enters.clear) enters.there)
      rw [moves, and_iff_right enters]
      exact deeper noLink.2
    -- The names behind this one would have to be below something that is no directory.
    · refine iff_of_false (fun leads => ?_) fun both => enters both.1.1
      have more : names ++ [name] ≠ [] := by simp
      have notLink := noLink.2 [] List.nil_prefix
      cases moved : tree.move .find base first (names ++ [name]) with
      | error fault =>
        rw [moved] at leads
        cases leads
      | ok m => exact enters (enters_of_moves firstNamed more notLink (move_eq_ok_iff.mp moved))

/-- What the last name of a walk leads to. -/
private theorem walkWith_last_iff {name : Text} (named : name ∉ [[], ['.'], ['.', '.']]) :
    (∃ goal content, tree.walkWith .find (tree.walkFrom .find (linkLimit - 1)) place [name] =
        .ok (.present goal (.file content))) ↔
      tree.obstacle? .find place name [] = none ∧
        ∃ entry, tree.entry? (place ++ [name]) = some entry ∧ tree.IsFileEntry place entry := by
  rw [walkWith]
  constructor
  · rintro ⟨goal, content, led⟩
    split at led
    · cases led
    · next ended =>
      cases led
      cases move_eq_ok_iff.mp ended with
      | file _ clear there => exact ⟨clear, _, there, .file⟩
    · cases led
    · next target moved =>
      cases move_eq_ok_iff.mp moved with
      | along _ clear there =>
        rw [List.append_nil] at led
        exact ⟨clear, _, there, .link led⟩
  · rintro ⟨clear, entry, there, isFile⟩
    cases isFile with
    | file => exact ⟨_, _, by rw [move_eq_ok_iff.mpr (.file named clear there)]⟩
    | @link target goal content led =>
      refine ⟨goal, content, ?_⟩
      rw [move_eq_ok_iff.mpr (.along named clear there)]
      dsimp only
      rw [List.append_nil]
      exact led

theorem isFile_eq_true_iff {cwd : Location} {path : Text} :
    tree.isFile cwd path = .ok true ↔
      ∃ goal content, tree.walk .find cwd path = .ok (.present goal (.file content)) := by
  rw [isFile, target?]
  cases tree.walk .find cwd path with
  | error fault => cases absent : fault.meansAbsent <;> simp [absent, Except.map]
  | ok goal =>
    cases goal with
    | absent here => simp [Except.map]
    | present here entry => cases entry <;> simp [Except.map]

/-- In a resolved directory, the path of a name leads to a regular file if there is one. -/
theorem isFile_path_iff (resolved : tree.IsResolved place) (cwd : Location) {name : Text}
    (single : name ≠ [] ∧ name ≠ ['.'] ∧ '/' ∉ name) (notUp : name ≠ ['.', '.'])
    (clean : '\x00' ∉ name) :
    tree.isFile cwd (Location.path (place ++ [name])) = .ok true ↔ tree.HasFile place name := by
  have normal : (Path.mk .root (place ++ [name])).IsNormal :=
    List.forall_mem_append.mpr ⟨resolved.normal, List.forall_mem_singleton.mpr single⟩
  have named : name ∉ [[], ['.'], ['.', '.']] := by simp [single, notUp]
  have placeNamed : ∀ part ∈ place, part ∉ [[], ['.'], ['.', '.']] := by
    intro part listed
    have notUp : part ≠ ['.', '.'] := by
      rintro rfl
      exact resolved.noneUp listed
    obtain ⟨notEmpty, notDot, -⟩ := resolved.normal part listed
    simp [notEmpty, notDot, notUp]
  have allClean : ∀ part ∈ place ++ [name], '\x00' ∉ part :=
    List.forall_mem_append.mpr ⟨resolved.noNul, List.forall_mem_singleton.mpr clean⟩
  rw [isFile_eq_true_iff, walk, pathFault?_path allClean, start_path normal, components_path normal]
  by_cases short : (Location.path (place ++ [name])).size < pathLimit
  · rw [if_neg (Nat.not_le.mpr short)]
    -- The component before the first slash is empty.
    change (∃ goal content, tree.walkWith .find (tree.walkFrom .find (linkLimit - 1)) []
      (place ++ [name]) = .ok (.present goal (.file content))) ↔ _
    simp only [walkWith_concat_iff _ [] place placeNamed resolved.noLink]
    constructor
    · rintro ⟨goal, content, directories, last⟩
      obtain ⟨clear, entry⟩ := (walkWith_last_iff named).mp ⟨goal, content, last⟩
      exact ⟨directories, clear, short, entry⟩
    · rintro ⟨directories, clear, -, entry⟩
      obtain ⟨goal, content, last⟩ := (walkWith_last_iff named).mpr ⟨clear, entry⟩
      exact ⟨goal, content, directories, last⟩
  · rw [if_pos (Nat.not_lt.mp short)]
    exact iff_of_false (by simp) fun has => short has.short

end FileTree

/-- A path is its own parent if there are no names in it. -/
private theorem Path.parent_eq_self_iff {p : Path} : p.parent = p ↔ p.names = [] := by
  obtain ⟨anchor, names⟩ := p
  cases names with
  | nil => exact iff_of_true rfl rfl
  | cons name names =>
    refine iff_of_false (fun same => ?_) nofun
    have shorter := congrArg (fun p : Path => p.names.length) same
    simp [parent] at shorter

namespace Settings

/-! ### Where a search ends -/

/-- In the directories below this one, down to a place, there is no project file. -/
def NoneNearer (tree : FileTree) (place directory : Location) : Prop :=
  ∀ nearer, nearer <+: place → directory.length < nearer.length →
    tree.isFile [] (projectFileIn nearer) = .ok false

/-- What a search from a place comes to: the project file in the deepest directory at or above it
that has one, unless a file in a directory on the way there cannot be looked at. -/
inductive SearchEnds (tree : FileTree) (place : Location) :
    Except FileError (Option Text) → Prop
  | nowhere : (∀ directory, directory <+: place →
      tree.isFile [] (projectFileIn directory) = .ok false) → SearchEnds tree place (.ok none)
  | found {directory : Location} : directory <+: place →
      tree.isFile [] (projectFileIn directory) = .ok true → NoneNearer tree place directory →
      SearchEnds tree place (.ok (some (projectFileIn directory)))
  | blocked {directory : Location} {e : FileError} : directory <+: place →
      tree.isFile [] (projectFileIn directory) = .error e → NoneNearer tree place directory →
      SearchEnds tree place (.error e)

variable {tree : FileTree} {place : Location}

private theorem NoneNearer.refl (tree : FileTree) (place : Location) :
    NoneNearer tree place place := by
  intro nearer begins longer
  exact absurd begins.length_le (Nat.not_le.mpr longer)

/-- A search that passes a directory goes on as one from the directory above it. -/
private theorem SearchEnds.concat {name : Text} {found : Except FileError (Option Text)}
    (passed : tree.isFile [] (projectFileIn (place ++ [name])) = .ok false)
    (ends : SearchEnds tree place found) : SearchEnds tree (place ++ [name]) found := by
  have nearer {directory : Location} (none : NoneNearer tree place directory) :
      NoneNearer tree (place ++ [name]) directory := by
    intro nearer begins longer
    rcases List.prefix_concat_iff.mp begins with rfl | above
    · exact passed
    · exact none nearer above longer
  have begins {directory : Location} (above : directory <+: place) :
      directory <+: place ++ [name] := above.trans (List.prefix_append _ _)
  cases ends with
  | nowhere missing =>
    refine .nowhere fun directory below => ?_
    rcases List.prefix_concat_iff.mp below with rfl | above
    · exact passed
    · exact missing directory above
  | found above isFile none => exact .found (begins above) isFile (nearer none)
  | blocked above failed none => exact .blocked (begins above) failed (nearer none)

/-- On the way up, the first directory that has an answer other than no settles the search. -/
private theorem searchEnds_above (tree : FileTree) (names : List Text) :
    SearchEnds tree names.reverse (projectFileAbove tree names) := by
  induction names with
  | nil =>
    rw [projectFileAbove]
    cases answer : tree.isFile [] (projectFileIn []) with
    | error e => exact .blocked (List.prefix_refl _) answer (.refl tree [])
    | ok isFile =>
      cases isFile with
      | true => exact .found (List.prefix_refl _) answer (.refl tree [])
      | false =>
        refine .nowhere fun directory begins => ?_
        rw [List.prefix_nil.mp begins]
        exact answer
  | cons name above ih =>
    rw [projectFileAbove, List.reverse_cons]
    split
    · next isFile => exact .found (List.prefix_refl _) isFile (.refl tree _)
    · next passed => exact ih.concat passed
    · next failed => exact .blocked (List.prefix_refl _) failed (.refl tree _)

/-- Two directories above one place, with no project file nearer than each of them, are the same if
neither lacks one itself. -/
private theorem NoneNearer.unique {directory directory' : Location} (above : directory <+: place)
    (above' : directory' <+: place) (none : NoneNearer tree place directory)
    (none' : NoneNearer tree place directory')
    (here : tree.isFile [] (projectFileIn directory) ≠ .ok false)
    (here' : tree.isFile [] (projectFileIn directory') ≠ .ok false) : directory = directory' := by
  rcases Nat.lt_trichotomy directory.length directory'.length with shorter | same | longer
  · exact absurd (none directory' above' shorter) here'
  · have begin := List.prefix_of_prefix_length_le above above' (Nat.le_of_eq same)
    exact begin.eq_of_length same
  · exact absurd (none' directory above longer) here

private theorem SearchEnds.unique {found found' : Except FileError (Option Text)}
    (ends : SearchEnds tree place found) (ends' : SearchEnds tree place found') :
    found = found' := by
  -- Searches that stop do so at the same directory, since neither is nearer, and have the same
  -- answer there. One that goes on everywhere has met no place to stop.
  cases ends with
  | nowhere missing =>
    cases ends' with
    | nowhere => rfl
    | found above isFile => rw [missing _ above] at isFile; cases isFile
    | blocked above failed => rw [missing _ above] at failed; cases failed
  | found above isFile none =>
    cases ends' with
    | nowhere missing => rw [missing _ above] at isFile; cases isFile
    | found above' isFile' none' =>
      rw [none.unique above above' none' (by simp [isFile]) (by simp [isFile'])]
    | blocked above' failed none' =>
      obtain rfl := none.unique above above' none' (by simp [isFile]) (by simp [failed])
      rw [isFile] at failed
      cases failed
  | blocked above failed none =>
    cases ends' with
    | nowhere missing => rw [missing _ above] at failed; cases failed
    | found above' isFile none' =>
      obtain rfl := none.unique above above' none' (by simp [failed]) (by simp [isFile])
      rw [failed] at isFile
      cases isFile
    | blocked above' failed' none' =>
      obtain rfl := none.unique above above' none' (by simp [failed]) (by simp [failed'])
      rw [Except.error.inj (failed.symm.trans failed')]

theorem projectFile?_eq_iff {found : Except FileError (Option Text)} :
    projectFile? tree place = found ↔ SearchEnds tree place found := by
  have ends := searchEnds_above tree place.reverse
  rw [List.reverse_reverse] at ends
  constructor
  · rintro rfl
    exact ends
  · exact ends.unique

/-! ### Rounds of the search -/

private theorem Search.step_looking (tree : FileTree) (place : Location) :
    Search.step tree (.looking ⟨.root, place⟩) =
      match tree.isFile [] (projectFileIn place) with
      | .ok true => .ended (.ok (some (projectFileIn place)))
      | .ok false => if place = [] then .ended (.ok none) else .looking ⟨.root, place.dropLast⟩
      | .error e => .ended (.error e) := by
  simp only [Search.step, Path.parent_eq_self_iff]
  rfl

private theorem Search.iterate_ended (tree : FileTree) (found : Except FileError (Option Text))
    (rounds : Nat) : (Search.step tree)^[rounds] (.ended found) = .ended found :=
  Function.iterate_fixed rfl rounds

/-- A search that has a round for every directory on its way ends with what is found above. -/
theorem Search.iterate_step (tree : FileTree) (names : List Text) {rounds : Nat}
    (enough : names.length < rounds) :
    (Search.step tree)^[rounds] (.looking ⟨.root, names.reverse⟩) =
      .ended (projectFileAbove tree names) := by
  induction names generalizing rounds with
  | nil =>
    obtain ⟨rounds, rfl⟩ := Nat.exists_eq_succ_of_ne_zero (Nat.ne_zero_of_lt enough)
    rw [Function.iterate_succ_apply, List.reverse_nil, step_looking, projectFileAbove, if_pos rfl]
    cases tree.isFile [] (projectFileIn []) with
    | error e => exact iterate_ended tree _ rounds
    | ok isFile => cases isFile <;> exact iterate_ended tree _ rounds
  | cons name above ih =>
    obtain ⟨rounds, rfl⟩ := Nat.exists_eq_succ_of_ne_zero (Nat.ne_zero_of_lt enough)
    have further := ih (Nat.succ_lt_succ_iff.mp enough)
    have up : (name :: above).reverse.dropLast = above.reverse := by simp
    rw [Function.iterate_succ_apply, step_looking, projectFileAbove, if_neg (by simp), up]
    cases tree.isFile [] (projectFileIn (name :: above).reverse) with
    | error e => exact iterate_ended tree _ rounds
    | ok isFile =>
      cases isFile with
      | true => exact iterate_ended tree _ rounds
      | false => exact further

/-! ### The nearest project file -/

/-- The file of a project, where a resolved directory has one. -/
theorem isFile_projectFileIn_iff (resolved : tree.IsResolved place) :
    tree.isFile [] (projectFileIn place) = .ok true ↔ tree.HasFile place projectFileName :=
  FileTree.isFile_path_iff resolved [] (by decide) (by decide) (by decide)

/-- The search from a resolved directory comes to its end. If it meets nothing that it cannot look
at, it ends with the project file of the deepest directory at or above it that has one, and with
none just when no directory up to the root has one. The first file that it cannot look at ends it
with an error, unless a project file is nearer. -/
theorem projectFile?_nearest (tree : FileTree) (place : Location)
    (resolved : tree.IsResolved place) :
    (∀ cwd found, tree.resolve cwd (Location.path place) = .ok found → found = place) ∧
      (∀ rounds, place.length < rounds → (Search.step tree)^[rounds] (.looking ⟨.root, place⟩) =
        .ended (projectFile? tree place)) ∧
      (∀ path, projectFile? tree place = .ok (some path) ↔
        ∃ directory, directory <+: place ∧ path = projectFileIn directory ∧
          tree.HasFile directory projectFileName ∧ NoneNearer tree place directory) ∧
      (projectFile? tree place = .ok none ↔ ∀ directory, directory <+: place →
        tree.isFile [] (projectFileIn directory) = .ok false) ∧
      (∀ e, projectFile? tree place = .error e ↔
        ∃ directory, directory <+: place ∧
          tree.isFile [] (projectFileIn directory) = .error e ∧
          NoneNearer tree place directory) ∧
      ∀ directory, directory <+: place →
        (tree.isFile [] (projectFileIn directory) = .ok true ↔
          tree.HasFile directory projectFileName) := by
  -- What ends the search is said in terms of single checks; each of them finds what there is.
  have has {directory : Location} (above : directory <+: place) :=
    isFile_projectFileIn_iff (resolved.of_prefix above)
  refine ⟨fun cwd found => FileTree.eq_of_resolve_path resolved, ?_, ?_, ?_, ?_, ?_⟩
  · intro rounds enough
    rw [← List.length_reverse] at enough
    have ends := Search.iterate_step tree place.reverse enough
    rwa [List.reverse_reverse] at ends
  · intro path
    rw [projectFile?_eq_iff]
    constructor
    · intro ends
      cases ends with
      | found above isFile none => exact ⟨_, above, rfl, (has above).mp isFile, none⟩
    · rintro ⟨directory, above, rfl, hasFile, none⟩
      exact .found above ((has above).mpr hasFile) none
  · rw [projectFile?_eq_iff]
    constructor
    · rintro ⟨missing⟩
      exact missing
    · exact .nowhere
  · intro e
    rw [projectFile?_eq_iff]
    constructor
    · intro ends
      cases ends with
      | blocked above failed none => exact ⟨_, above, failed, none⟩
    · rintro ⟨directory, above, failed, none⟩
      exact .blocked above failed none
  · exact fun directory above => has above

/-- A link to a file with a slash behind it is passed by, for a file is no directory. The link above
it leads to the file, and is nearer than the file in the root. -/
theorem projectFile?_nearest_link :
    let tree : FileTree := { entries := [(["a"], .directory), (["a", "b"], .directory),
      (["a", "b", projectFileName], .link "../../c/"), (["a", projectFileName], .link "../c"),
      (["c"], .file []), ([projectFileName], .file [])] }
    tree.IsResolved ["a", "b"] ∧ projectFile? tree ["a", "b"] = .ok (some "/a/.shellsplit") ∧
      (Search.step tree)^[3] (.looking ⟨.root, ["a", "b"]⟩) =
        .ended (.ok (some "/a/.shellsplit")) := by
  intro tree
  have resolved : tree.IsResolved ["a", "b"] := by
    refine ⟨by simp [Path.IsNormal], by decide, by decide, ?_⟩
    simp only [FileTree.forall_prefix_cons_iff, List.prefix_nil, forall_eq]
    exact ⟨nofun, nofun, nofun⟩
  obtain ⟨-, ends, nearest, -⟩ := projectFile?_nearest tree ["a", "b"] resolved
  have found : projectFile? tree ["a", "b"] = .ok (some "/a/.shellsplit") := by
    refine (nearest _).mpr ⟨["a"], by decide, rfl, ⟨?_, rfl, by decide, _, rfl, .link rfl⟩, ?_⟩
    · rw [FileTree.forall_step_cons_iff]
      exact ⟨⟨rfl, rfl⟩, by simp⟩
    · intro nearer begins longer
      obtain rfl : nearer = (["a", "b"] : Location) := begins.eq_of_length_le longer
      rfl
  exact ⟨resolved, found, found ▸ ends 3 (by decide)⟩

set_option maxRecDepth 4000 in
/-- The target of a link may be too long to be looked up. Then the search fails, although there is
no regular file in its way. -/
theorem projectFile?_overlong_link :
    let tree : FileTree := { entries := [(["work"], .directory),
      (["work", projectFileName], .link (List.replicate 300 'a'))] }
    tree.IsResolved ["work"] ∧
      (∀ directory, directory <+: (["work"] : Location) →
        ¬ tree.HasFile directory projectFileName) ∧
      projectFile? tree ["work"] = .error ⟨.nameTooLong, some "/work/.shellsplit"⟩ := by
  intro tree
  refine ⟨⟨by simp [Path.IsNormal], by decide, by decide, ?_⟩, ?_, rfl⟩
  · simp only [FileTree.forall_prefix_cons_iff, List.prefix_nil, forall_eq]
    exact ⟨nofun, nofun⟩
  · simp only [FileTree.forall_prefix_cons_iff, List.prefix_nil, forall_eq]
    constructor
    · rintro ⟨-, -, -, entry, there, -⟩
      cases there
    · rintro ⟨-, -, -, entry, there, isFile⟩
      cases there
      cases isFile with
      | link led => cases led

end Settings

end ShellWords
