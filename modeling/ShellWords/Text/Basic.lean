/-!
Texts and byte strings. Everything in this library is recursion over characters or bytes, so a text
is the list of its characters and a byte string the list of its bytes.
-/
namespace ShellWords

abbrev Text := List Char

abbrev Bytes := List UInt8

instance : Coe String Text := ⟨String.toList⟩

instance decidableEqExcept {ε α : Type} [DecidableEq ε] [DecidableEq α] :
    DecidableEq (Except ε α)
  | .ok a, .ok b => decidable_of_iff (a = b) ⟨congrArg Except.ok, Except.ok.inj⟩
  | .error e, .error f => decidable_of_iff (e = f) ⟨congrArg Except.error, Except.error.inj⟩
  | .ok _, .error _ => isFalse nofun
  | .error _, .ok _ => isFalse nofun

namespace Text

/-- How many bytes a text takes in UTF-8. -/
def size : Text → Nat
  | [] => 0
  | c :: rest => c.utf8Size + size rest

def ofNat (n : Nat) : Text := Nat.toDigits 10 n

def ofInt : Int → Text
  | .ofNat n => ofNat n
  | .negSucc n => '-' :: ofNat (n + 1)

/-- Lower-case hexadecimal digits, filled with zeros up to the width. -/
def hex (width n : Nat) : Text :=
  let digits := Nat.toDigits 16 n
  List.replicate (width - digits.length) '0' ++ digits

/-- Filled with spaces on the right up to the width. -/
def padRight (width : Nat) (t : Text) : Text :=
  t ++ List.replicate (width - t.length) ' '

/-- Everything before the first separator, and everything after it if there is one. -/
def cut (separator : Char) : Text → Text × Option Text
  | [] => ([], none)
  | c :: rest =>
    if c = separator then ([], some rest)
    else let (before, after) := cut separator rest
         (c :: before, after)

/-- Whether a contiguous part of the text reads like the given one. -/
def holds : Text → Text → Bool
  | [], part => part.isEmpty
  | c :: rest, part => part.isPrefixOf (c :: rest) || holds rest part

theorem holds_iff_isInfix {whole part : Text} : holds whole part = true ↔ part <:+: whole := by
  induction whole with
  | nil => simp [holds]
  | cons c rest ih => simp [holds, ih, List.infix_cons_iff]

theorem holds_singleton_iff {whole : Text} {c : Char} :
    holds whole [c] = true ↔ c ∈ whole := by
  rw [holds_iff_isInfix]
  constructor
  · exact fun part => part.subset (List.mem_singleton_self c)
  · intro member
    obtain ⟨before, after, same⟩ := List.append_of_mem member
    exact ⟨before, after, by simp [same]⟩

/-- What follows the first place where the mark occurs. -/
def after? (mark : Text) : Text → Option Text
  | [] => if mark.isEmpty then some [] else none
  | c :: rest =>
    if mark.isPrefixOf (c :: rest) then some ((c :: rest).drop mark.length) else after? mark rest

/-- What comes before the first place where the mark occurs, or everything. -/
def before (mark : Text) : Text → Text
  | [] => []
  | c :: rest => if mark.isPrefixOf (c :: rest) then [] else c :: before mark rest

/-- Whether a number lies in one of the listed closed intervals. -/
def inRanges (ranges : List (Nat × Nat)) (n : Nat) : Bool :=
  ranges.any fun range => range.1 ≤ n && n ≤ range.2

end Text

end ShellWords
