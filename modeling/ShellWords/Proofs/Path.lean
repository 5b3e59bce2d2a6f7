import ShellWords.Path
import ShellWords.Proofs.Text.Lines

/-!
# Written paths

A path that has been read is normal: its names are not empty, are no dots and have no slashes. A
normal path is read back from its text (`ofText_text`), whatever it begins with. Expanding a tilde
leaves a path without one, so reading and expanding do nothing to a path that they have led to
(`isExpressible_of_expandHome`, `expandHome_ofText_text`).
-/
namespace ShellWords

/-- Every home directory that is known has an absolute path in one line. -/
def Homes.AreProper (homes : Homes) : Prop :=
  ∀ ⦃user home⦄, homes.find user = .ok home →
    (Path.ofText home).isAbsolute = true ∧ home.IsOneLine

namespace Path

/-- The names are as reading leaves them. -/
def IsNormal (p : Path) : Prop := ∀ name ∈ p.names, name ≠ [] ∧ name ≠ ['.'] ∧ '/' ∉ name

/-- The first name of a relative path begins with a tilde. -/
def HasTilde (p : Path) : Prop :=
  p.anchor = .relative ∧ ∃ rest names, p.names = ('~' :: rest) :: names

/-- A path that a text in one line can lead to. -/
structure IsExpressible (p : Path) : Prop where
  normal : p.IsNormal
  noTilde : ¬ p.HasTilde
  oneLine : ∀ name ∈ p.names, Text.IsOneLine name

/-! ### Names -/

/-- A piece between two slashes has none, and no character that the text has not. -/
private theorem piece_of_splitOn {t piece : Text} (listed : piece ∈ t.splitOn '/') :
    '/' ∉ piece ∧ ∀ c ∈ piece, c ∈ t := by
  induction t generalizing piece with
  | nil =>
    rw [List.splitOn_nil, List.mem_singleton] at listed
    simp [listed]
  | cons d rest ih =>
    rw [List.splitOn_cons_eq_if_modifyHead] at listed
    split at listed
    · rcases List.mem_cons.mp listed with rfl | later
      · simp
      · exact ⟨(ih later).1, fun c member => List.mem_cons_of_mem d ((ih later).2 c member)⟩
    · next notSlash =>
      -- The character goes to the first piece, and the others stay as they are.
      cases pieces : rest.splitOn '/' with
      | nil => exact absurd pieces (List.splitOn_ne_nil '/' rest)
      | cons first others =>
        rw [pieces] at ih listed
        rcases List.mem_cons.mp listed with rfl | later
        · have inFirst := ih List.mem_cons_self
          refine ⟨?_, fun c member => ?_⟩
          · have other : d ≠ '/' := by simpa using notSlash
            simp [other.symm, inFirst.1]
          · rcases List.mem_cons.mp member with rfl | inside
            · exact List.mem_cons_self
            · exact List.mem_cons_of_mem d (inFirst.2 c inside)
        · have inOthers := ih (List.mem_cons_of_mem first later)
          exact ⟨inOthers.1, fun c member => List.mem_cons_of_mem d (inOthers.2 c member)⟩

private theorem mem_namesOf {t name : Text} (listed : name ∈ namesOf t) :
    name ∈ t.splitOn '/' ∧ name ≠ [] ∧ name ≠ ['.'] := by
  simpa [namesOf, components] using listed

theorem isNormal_ofText (t : Text) : (ofText t).IsNormal := by
  intro name listed
  obtain ⟨piece, notEmpty, notDot⟩ := mem_namesOf listed
  exact ⟨notEmpty, notDot, (piece_of_splitOn piece).1⟩

private theorem isOneLine_of_mem_namesOf {t name : Text} (line : t.IsOneLine)
    (listed : name ∈ namesOf t) :
    name.IsOneLine := by
  intro c member
  exact line c ((piece_of_splitOn (mem_namesOf listed).1).2 c member)

private theorem namesOf_slash (t : Text) : namesOf ('/' :: t) = namesOf t := by
  rw [namesOf, components, List.splitOn_cons_eq_if_modifyHead]
  rfl

private theorem namesOf_intercalate {names : List Text}
    (normal : ∀ name ∈ names, name ≠ [] ∧ name ≠ ['.'] ∧ '/' ∉ name) :
    namesOf (List.intercalate ['/'] names) = names := by
  cases names with
  | nil => rfl
  | cons name names =>
    have apart : ∀ part ∈ name :: names, '/' ∉ part := fun part member => (normal part member).2.2
    rw [namesOf, components, List.splitOn_intercalate '/' apart (List.cons_ne_nil _ _),
      List.filter_eq_self]
    intro part member
    simpa using ⟨(normal part member).1, (normal part member).2.1⟩

/-! ### Texts -/

/-- What names begin with is no slash. -/
private theorem takeWhile_slash_intercalate {names : List Text}
    (normal : ∀ name ∈ names, name ≠ [] ∧ name ≠ ['.'] ∧ '/' ∉ name) :
    (List.intercalate ['/'] names).takeWhile (· = '/') = [] := by
  rcases names with _ | ⟨_ | ⟨c, name⟩, names⟩
  · rfl
  · exact absurd rfl (normal [] List.mem_cons_self).1
  · have first : c ≠ '/' := by
      rintro rfl
      exact (normal _ List.mem_cons_self).2.2 List.mem_cons_self
    cases names <;> simp [first]

/-- A normal path is read back from its text. -/
theorem ofText_text {p : Path} (normal : p.IsNormal) : ofText p.text = p := by
  by_cases empty : p = {}
  · subst empty
    rfl
  · obtain ⟨anchor, names⟩ := p
    have begins := takeWhile_slash_intercalate normal
    have read := namesOf_intercalate normal
    rw [text, if_neg empty]
    -- The slashes of the anchor are the ones that the text begins with, and they bound no name.
    cases anchor with
    | relative => simp [Anchor.text, ofText, anchorOf, begins, read]
    | root => simp [Anchor.text, ofText, anchorOf, begins, namesOf_slash, read]
    | doubleRoot => simp [Anchor.text, ofText, anchorOf, begins, namesOf_slash, read]

theorem isOneLine_text {p : Path} (oneLine : ∀ name ∈ p.names, name.IsOneLine) :
    p.text.IsOneLine := by
  rw [text]
  split
  · exact List.forall_mem_singleton.mpr rfl
  · refine Text.isOneLine_append_iff.mpr ⟨?_, ?_⟩
    · cases p.anchor <;> simp [Anchor.text, Text.IsOneLine] <;> rfl
    · exact Text.isOneLine_intercalate (List.forall_mem_singleton.mpr rfl) oneLine

theorem isAbsolute_ofText_iff {t : Text} :
    (ofText t).isAbsolute = true ↔ ∃ rest, t = '/' :: rest := by
  cases t with
  | nil => simp [isAbsolute, ofText, anchorOf]
  | cons c rest =>
    by_cases slash : c = '/'
    · subst slash
      refine iff_of_true ?_ ⟨rest, rfl⟩
      simp only [isAbsolute, ofText, anchorOf, List.takeWhile_cons, decide_true, if_true,
        List.length_cons, decide_eq_true_eq]
      split
      · omega
      · exact nofun
      · exact nofun
    · simp [isAbsolute, ofText, anchorOf, slash]

/-! ### Tildes -/

private theorem expandHome_of_noTilde (homes : Homes) {p : Path} (noTilde : ¬ p.HasTilde) :
    p.expandHome homes = .ok p := by
  unfold expandHome
  split
  · next user names => exact absurd ⟨rfl, user, names, rfl⟩ noTilde
  · rfl

variable {homes : Homes}

/-- An absolute home directory is no other tilde, and stays absolute without the slashes at its
end. -/
private theorem ofHome_of_isAbsolute {home : Text} (absolute : (ofText home).isAbsolute = true)
    (line : home.IsOneLine) :
    ∃ directory, ofHome home = .ok directory ∧ directory.anchor ≠ .relative ∧ directory.IsNormal ∧
      ∀ name ∈ directory.names, name.IsOneLine := by
  obtain ⟨rest, rfl⟩ := isAbsolute_ofText_iff.mp absolute
  have begins : (('/' :: rest).reverse.dropWhile (· = '/')).reverse <+: '/' :: rest := by
    rw [← List.reverse_suffix, List.reverse_reverse]
    exact List.dropWhile_suffix _
  unfold ofHome
  generalize (('/' :: rest).reverse.dropWhile (· = '/')).reverse = stripped at begins
  cases stripped with
  | nil => exact ⟨_, rfl, nofun, nofun, nofun⟩
  | cons c t =>
    have still : Text.IsOneLine (c :: t) := fun d member => line d (begins.subset member)
    obtain ⟨rfl, -⟩ := List.cons_prefix_cons.mp begins
    have stillAbsolute := isAbsolute_ofText_iff.mpr ⟨t, rfl⟩
    refine ⟨_, rfl, by simpa [isAbsolute] using stillAbsolute, isNormal_ofText _, ?_⟩
    exact fun name listed => isOneLine_of_mem_namesOf still listed

/-- What reading and expanding lead to. -/
theorem isExpressible_of_expandHome (proper : homes.AreProper) {value : Text}
    (line : value.IsOneLine) {p : Path} (expanded : (ofText value).expandHome homes = .ok p) :
    p.IsExpressible := by
  have normal := isNormal_ofText value
  have oneLine : ∀ name ∈ (ofText value).names, name.IsOneLine :=
    fun name listed => isOneLine_of_mem_namesOf line listed
  generalize ofText value = q at expanded normal oneLine
  unfold expandHome at expanded
  split at expanded
  · next user names =>
    split at expanded
    · cases expanded
    -- A home that is absolute takes the place of the first name, so no tilde can come first.
    · next home known =>
      obtain ⟨absolute, homeLine⟩ := proper known
      obtain ⟨directory, found, anchored, homeNormal, homeNames⟩ :=
        ofHome_of_isAbsolute absolute homeLine
      rw [found] at expanded
      cases expanded
      refine ⟨?_, fun tilde => anchored tilde.1, ?_⟩
      · exact List.forall_mem_append.mpr ⟨homeNormal, (List.forall_mem_cons.mp normal).2⟩
      · exact List.forall_mem_append.mpr ⟨homeNames, (List.forall_mem_cons.mp oneLine).2⟩
  · next noTilde =>
    cases expanded
    refine ⟨normal, ?_, oneLine⟩
    obtain ⟨anchor, others⟩ := p
    rintro ⟨rfl, user, names, rfl⟩
    exact noTilde user names rfl

/-- An expressible path is read from its text, and has nothing to expand. -/
theorem expandHome_ofText_text (homes : Homes) {p : Path} (expressible : p.IsExpressible) :
    (ofText p.text).expandHome homes = .ok p := by
  rw [ofText_text expressible.normal, expandHome_of_noTilde homes expressible.noTilde]

end Path

end ShellWords
