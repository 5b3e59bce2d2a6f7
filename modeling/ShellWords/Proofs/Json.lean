import Mathlib.Tactic.SplitIfs
import ShellWords.Json

/-!
# Written JSON

Whatever a value holds, it is written in printable ASCII (`Json.isPrintableAscii_render`), so a line
break in the written form cannot come from the value. Members of an object are given their values
one by one (`Json.lookup_set`), and the value of a member is written in one place of the whole
(`Json.renderMembers_around`).
-/
namespace ShellWords

namespace Text

/-- Visible ASCII and blanks only. -/
def IsPrintableAscii (t : Text) : Prop := ∀ c ∈ t, 0x20 ≤ c.toNat ∧ c.toNat < 0x7F

-- Going through the text is the way to decide this: there are also finitely many characters.
instance (t : Text) : Decidable t.IsPrintableAscii :=
  List.decidableBAll (fun c : Char => 0x20 ≤ c.toNat ∧ c.toNat < 0x7F) t

theorem isPrintableAscii_append_iff {t u : Text} :
    IsPrintableAscii (t ++ u) ↔ t.IsPrintableAscii ∧ u.IsPrintableAscii :=
  List.forall_mem_append

theorem isPrintableAscii_cons_iff {c : Char} {t : Text} :
    IsPrintableAscii (c :: t) ↔ (0x20 ≤ c.toNat ∧ c.toNat < 0x7F) ∧ t.IsPrintableAscii :=
  List.forall_mem_cons

theorem IsPrintableAscii.newline_not_mem {t : Text} (printable : t.IsPrintableAscii) :
    '\n' ∉ t := fun member => absurd (printable _ member).1 (by decide)

private theorem isPrintableAscii_digitChar (n : Nat) : IsPrintableAscii [n.digitChar] := by
  have below : ∀ digit < 16, IsPrintableAscii [Nat.digitChar digit] := by decide
  by_cases small : n < 16
  · exact below n small
  · rw [Nat.digitChar_eq_star.mpr (Nat.le_of_not_lt small)]
    decide

private theorem isPrintableAscii_toDigits {base : Nat} (several : 1 < base) (n : Nat) :
    IsPrintableAscii (Nat.toDigits base n) := by
  induction n using Nat.strongRecOn with
  | ind n ih =>
    rw [Nat.toDigits_eq_if several]
    split_ifs with short
    · exact isPrintableAscii_digitChar n
    · have smaller : n / base < n := Nat.div_lt_self (by omega) several
      exact isPrintableAscii_append_iff.mpr ⟨ih _ smaller, isPrintableAscii_digitChar _⟩

theorem isPrintableAscii_ofInt (n : Int) : IsPrintableAscii (ofInt n) := by
  cases n with
  | ofNat n => exact isPrintableAscii_toDigits (by decide) n
  | negSucc n =>
    exact isPrintableAscii_cons_iff.mpr ⟨by decide, isPrintableAscii_toDigits (by decide) _⟩

theorem isPrintableAscii_hex (width n : Nat) : IsPrintableAscii (hex width n) := by
  refine isPrintableAscii_append_iff.mpr ⟨?_, isPrintableAscii_toDigits (by decide) n⟩
  intro c member
  rw [List.eq_of_mem_replicate member]
  decide

end Text

namespace Json

open Text

/-! ### Which characters are written -/

private theorem isPrintableAscii_unit (n : Nat) : IsPrintableAscii (unit n) :=
  isPrintableAscii_append_iff.mpr ⟨by decide, isPrintableAscii_hex 4 n⟩

private theorem isPrintableAscii_escape (c : Char) : IsPrintableAscii (escape c) := by
  unfold escape
  split_ifs with _ _ _ _ _ _ _ visible
  iterate 7 decide
  · intro d member
    rw [List.mem_singleton.mp member]
    simpa using visible
  · exact isPrintableAscii_unit _
  · exact isPrintableAscii_append_iff.mpr ⟨isPrintableAscii_unit _, isPrintableAscii_unit _⟩

theorem isPrintableAscii_quoted (t : Text) : IsPrintableAscii (quoted t) := by
  refine isPrintableAscii_cons_iff.mpr ⟨by decide, isPrintableAscii_append_iff.mpr ⟨?_, by decide⟩⟩
  intro d member
  obtain ⟨c, -, written⟩ := List.mem_flatMap.mp member
  exact isPrintableAscii_escape c d written

mutual

/-- A value is written in printable ASCII, whatever it holds. -/
theorem isPrintableAscii_render : (value : Json) → IsPrintableAscii value.render
  | null => by decide
  | bool true => by decide
  | bool false => by decide
  | int n => isPrintableAscii_ofInt n
  | str t => isPrintableAscii_quoted t
  | arr items => by
    rw [render]
    have inside := isPrintableAscii_renderItems items
    exact isPrintableAscii_cons_iff.mpr
      ⟨by decide, isPrintableAscii_append_iff.mpr ⟨inside, by decide⟩⟩
  | obj members => by
    rw [render]
    have inside := isPrintableAscii_renderMembers members
    exact isPrintableAscii_cons_iff.mpr
      ⟨by decide, isPrintableAscii_append_iff.mpr ⟨inside, by decide⟩⟩

private theorem isPrintableAscii_renderItems : (items : List Json) → IsPrintableAscii
    (renderItems items)
  | [] => by decide
  | [item] => isPrintableAscii_render item
  | item :: next :: items => by
    rw [renderItems, isPrintableAscii_append_iff, isPrintableAscii_append_iff]
    · exact ⟨⟨isPrintableAscii_render item, by decide⟩,
        isPrintableAscii_renderItems (next :: items)⟩
    · nofun

private theorem isPrintableAscii_renderMembers :
    (members : List (Text × Json)) → IsPrintableAscii (renderMembers members)
  | [] => by decide
  | [member] => isPrintableAscii_renderMember member
  | member :: next :: members => by
    rw [renderMembers, isPrintableAscii_append_iff, isPrintableAscii_append_iff]
    · exact ⟨⟨isPrintableAscii_renderMember member, by decide⟩,
        isPrintableAscii_renderMembers (next :: members)⟩
    · nofun

private theorem isPrintableAscii_renderMember :
    (member : Text × Json) → IsPrintableAscii (renderMember member)
  | (name, value) => by
    rw [renderMember, isPrintableAscii_append_iff, isPrintableAscii_append_iff]
    exact ⟨⟨isPrintableAscii_quoted name, by decide⟩, isPrintableAscii_render value⟩

end

/-! ### Members -/

theorem lookup_cons (other name : Text) (value : Json) (members : List (Text × Json)) :
    ((name, value) :: members).lookup other =
      if other = name then some value else members.lookup other := by
  by_cases same : other = name
  · simp [same]
  · simp [List.lookup_cons, beq_eq_false_iff_ne.mpr same, same]

theorem lookup_set (members : List (Text × Json)) (name : Text) (value : Json) (other : Text) :
    (set members name value).lookup other =
      if other = name then some value else members.lookup other := by
  induction members with
  | nil => exact lookup_cons other name value []
  | cons member members ih =>
    obtain ⟨here, old⟩ := member
    by_cases same : here = name
    · subst same
      simp only [set, if_true, lookup_cons]
      split_ifs <;> rfl
    · simp only [set, if_neg same, lookup_cons, ih]
      -- The member in front cannot be asked for by the name that gets the value.
      split_ifs with first asked
      · exact absurd (first.symm.trans asked) same
      all_goals rfl

/-- Members of which one may have any value, all others being settled. -/
def OpenAt (name : Text) (members : Json → List (Text × Json)) : Prop :=
  ∃ before after, ∀ value, members value = before ++ (name, value) :: after

theorem openAt_set (members : List (Text × Json)) (name : Text) :
    OpenAt name (set members name) := by
  induction members with
  | nil => exact ⟨[], [], fun _ => rfl⟩
  | cons member members ih =>
    obtain ⟨before, after, open_⟩ := ih
    by_cases same : member.1 = name
    · exact ⟨[], members, fun value => by simp [set, same]⟩
    · exact ⟨member :: before, after, fun value => by simp [set, same, open_]⟩

/-- Giving a value to another member leaves the member open. -/
theorem OpenAt.set {name other : Text} {members : Json → List (Text × Json)}
    (open_ : OpenAt name members) (differs : name ≠ other) (settled : Json) :
    OpenAt name fun value => Json.set (members value) other settled := by
  obtain ⟨before, after, open_⟩ := open_
  simp only [OpenAt, open_]
  clear open_
  induction before with
  | nil =>
    refine ⟨[], Json.set after other settled, fun value => ?_⟩
    simp [Json.set, differs]
  | cons member before ih =>
    by_cases same : member.1 = other
    · exact ⟨(other, settled) :: before, after, fun value => by simp [Json.set, same]⟩
    · obtain ⟨before', after', open_⟩ := ih
      exact ⟨member :: before', after', fun value => by simp [Json.set, same, open_]⟩

private theorem renderMembers_cons (member : Text × Json) {members : List (Text × Json)}
    (more : members ≠ []) :
    renderMembers (member :: members) = renderMember member ++ ", " ++ renderMembers members := by
  obtain ⟨next, members, rfl⟩ := List.exists_cons_of_ne_nil more
  rw [renderMembers]
  nofun

/-- A member stands in one place of the written form, whatever its value. -/
theorem renderMembers_around {name : Text} {members : Json → List (Text × Json)}
    (open_ : OpenAt name members) :
    ∃ front back : Text, ∀ value,
      renderMembers (members value) = front ++ renderMember (name, value) ++ back := by
  obtain ⟨before, after, open_⟩ := open_
  simp only [open_]
  clear open_
  induction before with
  | nil =>
    by_cases more : after = []
    · exact ⟨[], [], fun value => by simp [more, renderMembers]⟩
    · refine ⟨[], ", " ++ renderMembers after, fun value => ?_⟩
      rw [List.nil_append, renderMembers_cons _ more]
      simp
  | cons member before ih =>
    obtain ⟨front, back, around⟩ := ih
    refine ⟨renderMember member ++ ", " ++ front, back, fun value => ?_⟩
    rw [List.cons_append, renderMembers_cons _ (by simp), around]
    simp

end Json

end ShellWords
