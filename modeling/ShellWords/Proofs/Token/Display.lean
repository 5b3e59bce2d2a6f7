import Mathlib.Algebra.Group.Nat.Defs
import Mathlib.Tactic.SplitIfs
import ShellWords.Proofs.Json
import ShellWords.Text.Lines
import ShellWords.Token.Basic

/-!
# Displayed tokens

A literal is read back one character at a time: behind a backslash the next character says how many
digits there are, if any, and anything else stands for itself (`Text.readLiteralChar?`). So two
texts with one literal are the same text, whatever they hold of quotes, backslashes and digits. What
a literal is written with is printable, and no character that breaks a line is.
-/
namespace ShellWords

namespace Text

/-! ### Hexadecimal numbers -/

/-- The number that lower-case hexadecimal digits stand for. -/
def hexValue (digits : Text) : Nat :=
  digits.foldl (fun n c => 16 * n + ("0123456789abcdef" : Text).idxOf c) 0

private theorem hexValue_concat (digits : Text) {digit : Nat} (small : digit < 16) :
    hexValue (digits ++ [digit.digitChar]) = 16 * hexValue digits + digit := by
  have place : ∀ digit < 16, ("0123456789abcdef" : Text).idxOf (Nat.digitChar digit) = digit := by
    decide
  rw [hexValue, List.foldl_append, List.foldl_cons, List.foldl_nil, place digit small]
  rfl

private theorem hexValue_toDigits (n : Nat) : hexValue (Nat.toDigits 16 n) = n := by
  induction n using Nat.strongRecOn with
  | ind n ih =>
    rw [Nat.toDigits_eq_if (by decide)]
    split_ifs with small
    · have one := hexValue_concat [] small
      rw [List.nil_append] at one
      rw [one]
      exact Nat.zero_add n
    · have smaller : n / 16 < n := Nat.div_lt_self (by omega) (by decide)
      rw [hexValue_concat _ (Nat.mod_lt n (by decide)), ih _ smaller]
      exact Nat.div_add_mod n 16

private theorem hexValue_zeros_append (count : Nat) (digits : Text) :
    hexValue (List.replicate count '0' ++ digits) = hexValue digits := by
  have zeros : hexValue (List.replicate count '0') = 0 := by
    induction count with
    | zero => rfl
    | succ count ih =>
      rw [List.replicate_succ']
      exact (hexValue_concat (List.replicate count '0') (Nat.zero_lt_succ 15)).trans (by rw [ih])
  rw [hexValue] at zeros
  rw [hexValue, List.foldl_append, zeros]
  rfl

private theorem hexValue_hex (width n : Nat) : hexValue (hex width n) = n := by
  rw [hex, hexValue_zeros_append, hexValue_toDigits]

private theorem length_hex {width n : Nat} (positive : 0 < width) (fits : n < 16 ^ width) :
    (hex width n).length = width := by
  have short := (Nat.length_toDigits_le_iff (by decide) positive).mpr fits
  rw [hex, List.length_append, List.length_replicate]
  omega

/-! ### Reading a literal -/

/-- Reads a number with this many digits, and leaves what comes after it. -/
def readNumber (width : Nat) (t : Text) : Char × Text :=
  (Char.ofNat (hexValue (t.take width)), t.drop width)

/-- Reads one character of a literal, and leaves what comes after it. -/
def readLiteralChar? : Text → Option (Char × Text)
  | [] => none
  | '\\' :: 'x' :: rest => some (readNumber 2 rest)
  | '\\' :: 'u' :: rest => some (readNumber 4 rest)
  | '\\' :: 'U' :: rest => some (readNumber 8 rest)
  | '\\' :: 'n' :: rest => some ('\n', rest)
  | '\\' :: 'r' :: rest => some ('\r', rest)
  | '\\' :: 't' :: rest => some ('\t', rest)
  | '\\' :: c :: rest => some (c, rest)
  | c :: rest => some (c, rest)

variable {c : Char}

private theorem readNumber_hex {width : Nat} (positive : 0 < width) (fits : c.toNat < 16 ^ width)
    (rest : Text) : readNumber width (hex width c.toNat ++ rest) = (c, rest) := by
  have length := length_hex positive fits
  rw [readNumber, List.take_left' length, List.drop_left' length, hexValue_hex, Char.ofNat_toNat]

private theorem toNat_lt (c : Char) : c.toNat < 0x110000 := by
  have bounds : c.toNat < 0xD800 ∨ 0xDFFF < c.toNat ∧ c.toNat < 0x110000 := c.valid
  omega

private theorem readLiteralChar?_literalNumber (c : Char) (rest : Text) :
    readLiteralChar? (literalNumber c.toNat ++ rest) = some (c, rest) := by
  unfold literalNumber
  split_ifs with two four
  · exact congrArg some (readNumber_hex (by decide) two rest)
  · exact congrArg some (readNumber_hex (by decide) four rest)
  · have eight : c.toNat < 16 ^ 8 := Nat.lt_of_lt_of_le (toNat_lt c) (by decide)
    exact congrArg some (readNumber_hex (by decide) eight rest)

private theorem readLiteralChar?_self (plain : c ≠ '\\') (rest : Text) :
    readLiteralChar? (c :: rest) = some (c, rest) := by
  unfold readLiteralChar?
  split <;> simp_all

/-- A written character is read back, whichever quote the literal is in. -/
private theorem readLiteralChar?_literalChar {quote : Char} (isQuote : quote = '\'' ∨ quote = '"')
    (c : Char)
    (rest : Text) : readLiteralChar? (literalChar quote c ++ rest) = some (c, rest) := by
  unfold literalChar
  split_ifs with ofQuote backslash feed return_ tab visible
  · subst ofQuote
    rcases isQuote with rfl | rfl <;> rfl
  · rw [backslash]
    rfl
  · rw [feed]
    rfl
  · rw [return_]
    rfl
  · rw [tab]
    rfl
  · exact readLiteralChar?_self backslash rest
  · exact readLiteralChar?_literalNumber c rest

/-- By induction on the text: the first characters of two written texts are read alike. -/
private theorem flatMap_literalChar_injective {quote : Char}
    (isQuote : quote = '\'' ∨ quote = '"') :
    Function.Injective (List.flatMap (literalChar quote)) := by
  have first (c : Char) (t : Text) : readLiteralChar? ((c :: t).flatMap (literalChar quote)) =
      some (c, t.flatMap (literalChar quote)) := by
    rw [List.flatMap_cons, readLiteralChar?_literalChar isQuote]
  intro t u same
  induction t generalizing u with
  | nil =>
    cases u with
    | nil => rfl
    | cons d u => cases (congrArg readLiteralChar? same).trans (first d u)
  | cons c t ih =>
    have read := (first c t).symm.trans (congrArg readLiteralChar? same)
    cases u with
    | nil => cases read
    | cons d u =>
      rw [first d u] at read
      obtain ⟨rfl, rest⟩ := Prod.mk.inj (Option.some.inj read)
      rw [ih rest]

private theorem literalQuote_eq (t : Text) : literalQuote t = '\'' ∨ literalQuote t = '"' := by
  unfold literalQuote
  split
  · exact .inr rfl
  · exact .inl rfl

theorem literal_injective : Function.Injective literal := by
  intro t u same
  obtain ⟨quotes, bodies⟩ := List.cons.inj same
  rw [quotes] at bodies
  exact flatMap_literalChar_injective (literalQuote_eq u) (List.append_cancel_right bodies)

/-! ### What a literal is written with -/

theorem IsPrintableAscii.isPrintable {t : Text} (ascii : t.IsPrintableAscii) :
    ∀ c ∈ t, isPrintable c = true := by
  intro c member
  obtain ⟨low, high⟩ := ascii c member
  rw [Text.isPrintable, if_pos high]
  exact decide_eq_true low

private theorem isLineBreak_iff : isLineBreak c = true ↔ (0x0A ≤ c.toNat ∧ c.toNat ≤ 0x0D) ∨
    (0x1C ≤ c.toNat ∧ c.toNat ≤ 0x1E) ∨ c.toNat = 0x85 ∨ c.toNat = 0x2028 ∨ c.toNat = 0x2029 := by
  simp only [isLineBreak, inRanges, List.any_cons, List.any_nil, Bool.or_false, Bool.or_eq_true,
    Bool.and_eq_true, decide_eq_true_eq]
  omega

/-- No character that breaks a line is printable: it is a control or a separator. -/
theorem isLineBreak_of_isPrintable (printable : isPrintable c = true) : isLineBreak c = false := by
  rw [Bool.eq_false_iff, ne_eq, isLineBreak_iff]
  unfold isPrintable at printable
  split_ifs at printable with ascii
  · have visible : 0x20 ≤ c.toNat := of_decide_eq_true printable
    omega
  · have separators : inRanges unprintableRanges 0x85 = true ∧
        inRanges unprintableRanges 0x2028 = true ∧ inRanges unprintableRanges 0x2029 = true := by
      decide +kernel
    rintro (low | low | same | same | same)
    · omega
    · omega
    all_goals
      rw [same] at printable
      simp [separators] at printable

private theorem isPrintable_literalChar {quote : Char} (isQuote : quote = '\'' ∨ quote = '"')
    (c : Char) :
    ∀ d ∈ literalChar quote c, isPrintable d = true := by
  unfold literalChar
  split_ifs with ofQuote _ _ _ _ visible
  · subst ofQuote
    rcases isQuote with rfl | rfl <;> exact IsPrintableAscii.isPrintable (by decide)
  iterate 4 exact IsPrintableAscii.isPrintable (by decide)
  · exact List.forall_mem_singleton.mpr visible
  · refine IsPrintableAscii.isPrintable ?_
    unfold literalNumber
    split_ifs <;> exact isPrintableAscii_append_iff.mpr ⟨by decide, isPrintableAscii_hex _ _⟩

theorem isPrintable_literal (t : Text) : ∀ c ∈ literal t, isPrintable c = true := by
  have isQuote := literalQuote_eq t
  have quote : isPrintable (literalQuote t) = true := by
    rcases isQuote with same | same
    all_goals
      rw [same]
      decide
  refine List.forall_mem_cons.mpr ⟨quote, List.forall_mem_append.mpr ⟨?_, ?_⟩⟩
  · intro d member
    obtain ⟨c, -, written⟩ := List.mem_flatMap.mp member
    exact isPrintable_literalChar isQuote c d written
  · exact List.forall_mem_singleton.mpr quote

end Text

/-! ### Tokens -/

/-- The names of the kinds differ in their first characters. -/
private theorem TokenKind.eq_of_name {kind other : TokenKind} {t u : Text}
    (same : kind.name ++ t = other.name ++ u) : kind = other := by
  have word (t : Text) : (TokenKind.word.name ++ t).head? = some 'w' := rfl
  have comment (t : Text) : (TokenKind.comment.name ++ t).head? = some 'c' := rfl
  have heads := congrArg List.head? same
  cases kind with
  | word =>
    cases other with
    | word => rfl
    | comment => cases (word t).symm.trans (heads.trans (comment u))
  | comment =>
    cases other with
    | word => cases (comment t).symm.trans (heads.trans (word u))
    | comment => rfl

namespace Token

theorem display_injective : Function.Injective display := by
  intro t u same
  unfold display at same
  simp only [List.append_assoc] at same
  have names := List.append_cancel_left same
  have kinds := TokenKind.eq_of_name names
  rw [kinds] at names
  have literals := List.append_cancel_left (List.append_cancel_left names)
  have values := Text.literal_injective (List.append_cancel_right literals)
  exact congr (congrArg Token.mk kinds) values

theorem isPrintable_display (t : Token) : ∀ c ∈ t.display, Text.isPrintable c = true := by
  have name : t.kind.name.IsPrintableAscii := by cases t.kind <;> decide
  have before : Text.IsPrintableAscii ("Token(" ++ t.kind.name ++ ", ") :=
    Text.isPrintableAscii_append_iff.mpr
      ⟨Text.isPrintableAscii_append_iff.mpr ⟨by decide, name⟩, by decide⟩
  have after : Text.IsPrintableAscii ")" := by decide
  exact List.forall_mem_append.mpr
    ⟨List.forall_mem_append.mpr ⟨before.isPrintable, Text.isPrintable_literal t.value⟩,
      after.isPrintable⟩

/-- Tokens that are displayed alike are the same, in kind and in value. They are displayed on one
line, in printable characters only. -/
theorem display_unambiguous :
    (∀ t u : Token, t.display = u.display → t = u) ∧
    ∀ (t : Token), ∀ c ∈ t.display, Text.isPrintable c = true ∧ Text.isLineBreak c = false := by
  refine ⟨fun t u same => display_injective same, ?_⟩
  intro t c member
  have printable := isPrintable_display t c member
  exact ⟨printable, Text.isLineBreak_of_isPrintable printable⟩

/-- A bell, and a backslash with the digits that a bell is written with. -/
theorem display_unambiguous_bell :
    display ⟨.word, ['\x07']⟩ = "Token(word, '\\x07')" ∧
    display ⟨.word, "\\x07"⟩ = "Token(word, '\\\\x07')" ∧
    display ⟨.word, ['\x07']⟩ ≠ display ⟨.word, "\\x07"⟩ ∧
    ∀ c ∈ display ⟨.word, ['\x07']⟩, Text.isPrintable c = true ∧ Text.isLineBreak c = false := by
  refine ⟨by decide, by decide, ?_, display_unambiguous.2 _⟩
  intro same
  exact absurd (display_unambiguous.1 _ _ same) (by decide)

end Token

end ShellWords
