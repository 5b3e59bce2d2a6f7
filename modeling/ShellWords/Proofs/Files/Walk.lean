import ShellWords.Files.Tree

/-!
# Where walks lead

A walk does the same with every name that it comes to, and `FileTree.Moves` lists what that can be.
So a fact on the goals of walks (`FileTree.goal_of_walk`), or on the goals of walks in two trees
(`FileTree.walk_of_moves`), is a fact on single names.
-/
namespace ShellWords.FileTree

/-- The ways in which a name moves a walk on, or ends it. -/
inductive Moves (tree : FileTree) (purpose : Purpose) (directory : Location) :
    Text → List Text → Move → Prop
  | gap {after : List Text} : Moves tree purpose directory [] after (.into directory)
  | dot {after : List Text} : tree.obstacle? purpose directory ['.'] after = none →
      Moves tree purpose directory ['.'] after (.into directory)
  | up {after : List Text} : tree.obstacle? purpose directory ['.', '.'] after = none →
      Moves tree purpose directory ['.', '.'] after (.into directory.dropLast)
  | free {name : Text} : name ∉ [[], ['.'], ['.', '.']] →
      tree.obstacle? purpose directory name [] = none →
      tree.entry? (directory ++ [name]) = none →
      Moves tree purpose directory name [] (.done (.absent (directory ++ [name])))
  | file {name : Text} {content : Bytes} : name ∉ [[], ['.'], ['.', '.']] →
      tree.obstacle? purpose directory name [] = none →
      tree.entry? (directory ++ [name]) = some (.file content) →
      Moves tree purpose directory name []
        (.done (.present (directory ++ [name]) (.file content)))
  | into {name : Text} {after : List Text} : name ∉ [[], ['.'], ['.', '.']] →
      tree.obstacle? purpose directory name after = none →
      tree.entry? (directory ++ [name]) = some .directory →
      Moves tree purpose directory name after (.into (directory ++ [name]))
  | along {name target : Text} {after : List Text} : name ∉ [[], ['.'], ['.', '.']] →
      tree.obstacle? purpose directory name after = none →
      tree.entry? (directory ++ [name]) = some (.link target) →
      Moves tree purpose directory name after (.along target)

variable {tree later : FileTree} {purpose purpose' : Purpose} {cwd directory : Location}
  {name path : Text} {after : List Text}

/-- A name that is looked up is one of the tree, or leads nowhere else. -/
private theorem move_named (named : name ∉ [[], ['.'], ['.', '.']])
    (clear : tree.obstacle? purpose directory name after = none) :
    tree.move purpose directory name after =
      match tree.entry? (directory ++ [name]) with
      | none => if after = [] then .ok (.done (.absent (directory ++ [name]))) else .error .missing
      | some (.file content) =>
        if after = [] then .ok (.done (.present (directory ++ [name]) (.file content)))
        else .error .notDirectory
      | some .directory => .ok (.into (directory ++ [name]))
      | some (.link target) => .ok (.along target) := by
  simp only [List.mem_cons, List.not_mem_nil, or_false, not_or] at named
  rw [move, if_neg named.1, clear]
  dsimp only
  rewrite [if_neg named.2.1, if_neg named.2.2]
  rfl

theorem move_eq_ok_iff {m : Move} :
    tree.move purpose directory name after = .ok m ↔
      Moves tree purpose directory name after m := by
  constructor
  · intro moved
    by_cases empty : name = []
    · rw [move, if_pos empty] at moved
      cases moved
      exact empty ▸ .gap
    -- Every other name is looked up, the dots as well.
    cases clear : tree.obstacle? purpose directory name after with
    | some fault =>
      rw [move, if_neg empty, clear] at moved
      cases moved
    | none =>
      by_cases dot : name = ['.']
      · subst dot
        rw [move, if_neg empty, clear] at moved
        cases moved
        exact .dot clear
      by_cases up : name = ['.', '.']
      · subst up
        rw [move, if_neg empty, clear] at moved
        cases moved
        exact .up clear
      have named : name ∉ [[], ['.'], ['.', '.']] := by simp [empty, dot, up]
      rw [move_named named clear] at moved
      split at moved
      · next there =>
        split at moved
        · next last =>
          cases moved
          subst last
          exact .free named clear there
        · cases moved
      · next there =>
        split at moved
        · next last =>
          cases moved
          subst last
          exact .file named clear there
        · cases moved
      · next there =>
        cases moved
        exact .into named clear there
      · next there =>
        cases moved
        exact .along named clear there
  · intro moves
    cases moves with
    | gap => rw [move, if_pos rfl]
    | dot clear => rw [move, if_neg (by decide), clear]; rfl
    | up clear => rw [move, if_neg (by decide), clear]; rfl
    | free named clear there => rw [move_named named clear, there]; rfl
    | file named clear there => rw [move_named named clear, there]; rfl
    | into named clear there => rw [move_named named clear, there]
    | along named clear there => rw [move_named named clear, there]

/-! ### Goals -/

/-- What holds of every directory, and of what a name can end a walk at, holds of every goal. -/
theorem goal_of_walk {P : Goal → Prop}
    (directories : ∀ directory, P (.present directory .directory))
    (ends : ∀ directory name after goal,
      Moves tree purpose directory name after (.done goal) → P goal)
    {goal : Goal} (walked : tree.walk purpose cwd path = .ok goal) : P goal := by
  have between {enter : Location → List Text → Except FileFault Goal}
      (follow : ∀ directory names goal, enter directory names = .ok goal → P goal)
      (directory : Location) (names : List Text) (goal : Goal)
      (walked : tree.walkWith purpose enter directory names = .ok goal) : P goal := by
    induction names generalizing directory with
    | nil =>
      cases walked
      exact directories directory
    | cons name after ih =>
      rw [walkWith] at walked
      split at walked
      · cases walked
      · next ended =>
        cases walked
        exact ends _ _ _ _ (move_eq_ok_iff.mp ended)
      · exact ih _ walked
      · exact follow _ _ _ walked
  -- On the links that may be followed, and between two of them on the names.
  have every (links : Nat) (directory : Location) (names : List Text) (goal : Goal) :
      tree.walkFrom purpose links directory names = .ok goal → P goal := by
    induction links generalizing directory names goal with
    | zero => exact between (fun _ _ _ refused => by cases refused) directory names goal
    | succ links ih => exact between ih directory names goal
  rw [walk] at walked
  split at walked
  · cases walked
  · exact every _ _ _ _ walked

/-- A walk in another tree goes the same way to an answer of its own, if all names move both walks
in the same way. Names that end the walk have to do so for the goals asked for only. -/
theorem walk_of_moves (Asked : Goal → Prop) (answer : Goal → Goal)
    (directories : ∀ directory, Asked (.present directory .directory) →
      answer (.present directory .directory) = .present directory .directory)
    (ends : ∀ directory name after goal, Asked goal →
      Moves tree purpose directory name after (.done goal) →
      Moves later purpose' directory name after (.done (answer goal)))
    (goesOn : ∀ directory name after m, (∀ goal, m ≠ .done goal) →
      Moves tree purpose directory name after m → Moves later purpose' directory name after m)
    {goal : Goal} (walked : tree.walk purpose cwd path = .ok goal) (asked : Asked goal) :
    later.walk purpose' cwd path = .ok (answer goal) := by
  have between {enter enter' : Location → List Text → Except FileFault Goal}
      (follow : ∀ directory names goal, enter directory names = .ok goal → Asked goal →
        enter' directory names = .ok (answer goal))
      (directory : Location) (names : List Text) (goal : Goal)
      (walked : tree.walkWith purpose enter directory names = .ok goal) (asked : Asked goal) :
      later.walkWith purpose' enter' directory names = .ok (answer goal) := by
    induction names generalizing directory with
    | nil =>
      cases walked
      rw [walkWith, directories directory asked]
    | cons name after ih =>
      rw [walkWith] at walked ⊢
      split at walked
      · cases walked
      · next ended =>
        cases walked
        rw [move_eq_ok_iff.mpr (ends _ _ _ _ asked (move_eq_ok_iff.mp ended))]
      · next entered =>
        have moves := goesOn _ _ _ _ (by nofun) (move_eq_ok_iff.mp entered)
        rw [move_eq_ok_iff.mpr moves]
        exact ih _ walked
      · next linked =>
        have moves := goesOn _ _ _ _ (by nofun) (move_eq_ok_iff.mp linked)
        rw [move_eq_ok_iff.mpr moves]
        exact follow _ _ _ walked asked
  -- Both walks may follow as many links, so they go on together.
  have every (links : Nat) (directory : Location) (names : List Text) (goal : Goal) :
      tree.walkFrom purpose links directory names = .ok goal → Asked goal →
        later.walkFrom purpose' links directory names = .ok (answer goal) := by
    induction links generalizing directory names goal with
    | zero => exact between (fun _ _ _ refused => by cases refused) directory names goal
    | succ links ih => exact between ih directory names goal
  rw [walk] at walked ⊢
  split at walked
  · cases walked
  · exact every _ _ _ _ walked asked

/-- There is less in the way of a walk that is not to make anything. -/
private theorem obstacle?_find_of_clear
    (clear : tree.obstacle? purpose directory name after = none) :
    tree.obstacle? .find directory name after = none := by
  unfold obstacle? at clear ⊢
  split at clear
  · cases clear
  · split at clear
    · cases clear
    · split at clear
      · cases clear
      · next short => rw [if_neg nofun, if_neg short]

/-- A walk to where a file is to be made comes to what a walk to find it comes to. -/
theorem walk_find_of_walk {goal : Goal} (walked : tree.walk purpose cwd path = .ok goal) :
    tree.walk .find cwd path = .ok goal := by
  have same : ∀ directory name after m, Moves tree purpose directory name after m →
      Moves tree .find directory name after m := by
    intro directory name after m moves
    cases moves with
    | gap => exact .gap
    | dot clear => exact .dot (obstacle?_find_of_clear clear)
    | up clear => exact .up (obstacle?_find_of_clear clear)
    | free named clear there => exact .free named (obstacle?_find_of_clear clear) there
    | file named clear there => exact .file named (obstacle?_find_of_clear clear) there
    | into named clear there => exact .into named (obstacle?_find_of_clear clear) there
    | along named clear there => exact .along named (obstacle?_find_of_clear clear) there
  exact walk_of_moves (fun _ => True) id (fun _ _ => rfl)
    (fun _ _ _ _ _ => same _ _ _ _) (fun _ _ _ _ _ => same _ _ _ _) walked trivial

end ShellWords.FileTree
