import Mathlib.Tactic.SplitIfs
import ShellWords.Text.Decoding

/-!
# UTF-8, one byte at a time

`IsCharacter` says which byte sequences are one character, and `IsHeld` what a decoder can hold
between two bytes. Encoding and assembling are inverse on these (`isCharacter_encode`,
`encode_assemble`), so a decoder that is fed the bytes of a character holds all but the last of them
and then gives the character (`feed_encode`), and gives no character otherwise (`feed_of_isHeld`).
What bytes that are no text give before they are refused is the longest text that they begin with
(`isLongestText_iff`).
-/
namespace ShellWords.Utf8

/-- The bytes of one character: the first byte tells how many there are, and each other one may
follow those before it. -/
def IsCharacter : Bytes → Prop
  | [a] => width a = 1
  | [a, b] => width a = 2 ∧ continues [a] b
  | [a, b, c] => width a = 3 ∧ continues [a] b ∧ continues [a, b] c
  | [a, b, c, d] => width a = 4 ∧ continues [a] b ∧ continues [a, b] c ∧ continues [a, b, c] d
  | _ => False

/-- What a decoder can hold: the first bytes of a character, or of a surrogate. -/
def IsHeld : Bytes → Prop
  | [] => True
  | [a] => 1 < width a
  | [a, b] => startsSurrogate [a, b] = true ∨ (2 < width a ∧ continues [a] b)
  | [a, b, c] => width a = 4 ∧ continues [a] b ∧ continues [a, b] c
  | _ => False

/-! ### Ranges of bytes -/

theorem width_eq_iff (lead : UInt8) :
    (width lead = 1 ↔ lead.toNat < 0x80) ∧
    (width lead = 2 ↔ 0xC2 ≤ lead.toNat ∧ lead.toNat < 0xE0) ∧
    (width lead = 3 ↔ 0xE0 ≤ lead.toNat ∧ lead.toNat < 0xF0) ∧
    (width lead = 4 ↔ 0xF0 ≤ lead.toNat ∧ lead.toNat < 0xF5) := by
  simp only [width, UInt8.lt_iff_toNat_lt, UInt8.reduceToNat]
  refine ⟨?_, ?_, ?_, ?_⟩ <;> split_ifs <;> simp <;> omega

private theorem width_le (lead : UInt8) : width lead ≤ 4 := by
  unfold width
  split_ifs <;> omega

private theorem continues_lead_iff (lead b : UInt8) : continues [lead] b = true ↔
    0x80 ≤ b.toNat ∧ b.toNat ≤ 0xBF ∧
    (lead.toNat = 0xE0 → 0xA0 ≤ b.toNat) ∧ (lead.toNat = 0xED → b.toNat ≤ 0x9F) ∧
    (lead.toNat = 0xF0 → 0x90 ≤ b.toNat) ∧ (lead.toNat = 0xF4 → b.toNat ≤ 0x8F) := by
  unfold continues
  -- Four first bytes restrict the second one; the last case is all the others.
  split
  all_goals
    simp only [List.cons.injEq, and_true, imp_false, ← UInt8.toNat_inj, UInt8.reduceToNat] at *
    simp only [UInt8.le_iff_toNat_le, Bool.and_eq_true, decide_eq_true_eq, UInt8.reduceToNat]
    omega

private theorem continues_later_iff (lead second : UInt8) (others : Bytes) (b : UInt8) :
    continues (lead :: second :: others) b = true ↔ 0x80 ≤ b.toNat ∧ b.toNat ≤ 0xBF := by
  simp [continues, UInt8.le_iff_toNat_le]

theorem startsSurrogate_pair_iff (a b : UInt8) :
    startsSurrogate [a, b] = true ↔ a.toNat = 0xED ∧ 0xA0 ≤ b.toNat ∧ b.toNat ≤ 0xBF := by
  unfold startsSurrogate
  split
  all_goals
    simp only [List.cons.injEq, and_true, imp_false, ← UInt8.toNat_inj, UInt8.reduceToNat,
      UInt8.le_iff_toNat_le, Bool.and_eq_true, decide_eq_true_eq] at *
    grind

theorem startsSurrogate_of_length_ne {bytes : Bytes} (length : bytes.length ≠ 2) :
    startsSurrogate bytes = false := by
  unfold startsSurrogate
  split <;> simp_all

/-- A byte that may follow begins no surrogate. -/
theorem startsSurrogate_of_continues {a b : UInt8} (follows : continues [a] b = true) :
    startsSurrogate [a, b] = false := by
  rw [continues_lead_iff] at follows
  rw [Bool.eq_false_iff, ne_eq, startsSurrogate_pair_iff]
  omega

/-! ### Encoding and assembling -/

private theorem assemble_eq {c : Char} {bytes : Bytes}
    (code : assemble bytes = Char.ofNat c.toNat) :
    assemble bytes = c := by
  rw [code, Char.ofNat_toNat]

private theorem toNat_ofNat {n : Nat} (valid : n < 0xD800 ∨ 0xDFFF < n ∧ n < 0x110000) :
    (Char.ofNat n).val.toNat = n := by
  have isValid : n.isValidChar := valid
  rw [Char.ofNat, dif_pos isValid]
  rfl

/-- What a character is encoded as is the bytes of one character, which is the same one. -/
theorem isCharacter_encode (c : Char) :
    IsCharacter (String.utf8EncodeChar c) ∧ assemble (String.utf8EncodeChar c) = c := by
  have valid : c.val.toNat < 0xD800 ∨ 0xDFFF < c.val.toNat ∧ c.val.toNat < 0x110000 := c.valid
  have number : c.toNat = c.val.toNat := rfl
  simp only [String.utf8EncodeChar]
  -- One case for each number of bytes.
  split_ifs with one two three
  all_goals
    constructor
    · simp only [IsCharacter, width_eq_iff, continues_lead_iff, continues_later_iff,
        UInt8.toNat_ofNat']
      omega
    · apply assemble_eq
      simp only [assemble, List.length_cons, List.length_nil, List.foldl_cons, List.foldl_nil,
        UInt8.toNat_ofNat', number]
      congr 1
      omega

/-- The bytes of a character are what it is encoded as. -/
theorem encode_assemble {bytes : Bytes} (character : IsCharacter bytes) :
    String.utf8EncodeChar (assemble bytes) = bytes := by
  -- The ranges of a character's first two bytes place its number between the bounds of its length.
  match bytes with
  | [] | _ :: _ :: _ :: _ :: _ :: _ => cases character
  | [a] =>
    simp only [IsCharacter, width_eq_iff] at character
    simp only [assemble, List.length_nil, List.foldl_nil, String.utf8EncodeChar]
    rw [toNat_ofNat (by omega), if_pos (by omega)]
    simp
  | [a, b] =>
    simp only [IsCharacter, width_eq_iff, continues_lead_iff] at character
    simp only [assemble, List.length_nil, List.length_cons, List.foldl_nil, List.foldl_cons,
      String.utf8EncodeChar]
    rw [toNat_ofNat (by omega), if_neg (by omega), if_pos (by omega)]
    simp only [List.cons.injEq, ← UInt8.toNat_inj, UInt8.toNat_ofNat', and_true]
    omega
  | [a, b, c] =>
    simp only [IsCharacter, width_eq_iff, continues_lead_iff, continues_later_iff] at character
    simp only [assemble, List.length_nil, List.length_cons, List.foldl_nil, List.foldl_cons,
      String.utf8EncodeChar]
    rw [toNat_ofNat (by omega), if_neg (by omega), if_neg (by omega), if_pos (by omega)]
    simp only [List.cons.injEq, ← UInt8.toNat_inj, UInt8.toNat_ofNat', and_true]
    omega
  | [a, b, c, d] =>
    simp only [IsCharacter, width_eq_iff, continues_lead_iff, continues_later_iff] at character
    simp only [assemble, List.length_nil, List.length_cons, List.foldl_nil, List.foldl_cons,
      String.utf8EncodeChar]
    rw [toNat_ofNat (by omega), if_neg (by omega), if_neg (by omega), if_neg (by omega)]
    simp only [List.cons.injEq, ← UInt8.toNat_inj, UInt8.toNat_ofNat', and_true]
    omega

/-! ### One byte -/

theorem feed_of_isCharacter {held rest : Bytes} {b : UInt8}
    (character : IsCharacter (held ++ b :: rest)) :
    feed held b =
      if rest = [] then .char (assemble (held ++ [b])) else .held (held ++ [b]) := by
  -- By how many bytes of the character are held, and how many are still to come.
  match held, rest with
  | [], [] =>
    have one : width b = 1 := character
    simp [feed, one]
  | [], [c] =>
    obtain ⟨two, -⟩ := character
    simp [feed, two]
  | [], [c, d] =>
    obtain ⟨three, -⟩ := character
    simp [feed, three]
  | [], [c, d, e] =>
    obtain ⟨four, -⟩ := character
    simp [feed, four]
  | [a], [] =>
    obtain ⟨two, follows⟩ := character
    simp [feed, two, follows, startsSurrogate_of_length_ne, startsSurrogate_of_continues follows]
  | [a], [c] =>
    obtain ⟨three, follows, -⟩ := character
    simp [feed, three, follows, startsSurrogate_of_length_ne, startsSurrogate_of_continues follows]
  | [a], [c, d] =>
    obtain ⟨four, follows, -⟩ := character
    simp [feed, four, follows, startsSurrogate_of_length_ne, startsSurrogate_of_continues follows]
  | [a, a'], [] =>
    obtain ⟨three, first, follows⟩ := character
    simp [feed, three, follows, startsSurrogate_of_length_ne, startsSurrogate_of_continues first]
  | [a, a'], [c] =>
    obtain ⟨four, first, follows, -⟩ := character
    simp [feed, four, follows, startsSurrogate_of_length_ne, startsSurrogate_of_continues first]
  | [a, a', a''], [] =>
    obtain ⟨four, -, -, follows⟩ := character
    simp [feed, four, follows, startsSurrogate_of_length_ne]
  | [], _ :: _ :: _ :: _ :: _ | [_], _ :: _ :: _ :: _ | [_, _], _ :: _ :: _ | [_, _, _], _ :: _
  | _ :: _ :: _ :: _ :: _, _ => simp [IsCharacter] at character

/-- The bytes of a character are held but for the last one, which gives the character. -/
theorem feed_encode {c : Char} {held rest : Bytes} {b : UInt8}
    (whole : String.utf8EncodeChar c = held ++ b :: rest) :
    feed held b = if rest = [] then .char c else .held (held ++ [b]) := by
  obtain ⟨character, same⟩ := isCharacter_encode c
  rw [whole] at character same
  rw [feed_of_isCharacter character]
  split_ifs with last
  · rw [last] at same
    rw [same]
  · rfl

theorem feed_of_isHeld {held : Bytes} (begun : IsHeld held) (b : UInt8) :
    (∀ c, feed held b = .char c → IsCharacter (held ++ [b]) ∧ c = assemble (held ++ [b])) ∧
    (∀ bytes, feed held b = .held bytes → bytes = held ++ [b] ∧ IsHeld (held ++ [b])) := by
  match held with
  | [] =>
    simp only [feed]
    split <;> simp_all [IsCharacter, IsHeld]
    omega
  | [a] | [a, _] | [a, _, _] =>
    have widest := width_le a
    simp only [IsHeld] at begun
    simp only [feed]
    split_ifs <;> simp_all [IsCharacter, IsHeld, startsSurrogate_of_length_ne] <;> omega
  | _ :: _ :: _ :: _ :: _ => cases begun

theorem encode_of_feed {held : Bytes} {b : UInt8} {c : Char} (begun : IsHeld held)
    (fed : feed held b = .char c) : String.utf8EncodeChar c = held ++ [b] := by
  obtain ⟨character, same⟩ := (feed_of_isHeld begun b).1 c fed
  rw [same, encode_assemble character]

/-! ### Texts -/

theorem encode_cons (c : Char) (t : Text) :
    encode (c :: t) = String.utf8EncodeChar c ++ encode t := by
  simp [encode]

theorem encode_append (t u : Text) : encode (t ++ u) = encode t ++ encode u := by
  simp [encode]

theorem encodeChar_ne_nil (c : Char) : String.utf8EncodeChar c ≠ [] := by
  intro none
  have character := (isCharacter_encode c).1
  rw [none] at character
  exact character

/-- A chunk that goes on with a character, and what follows it in the character. The chunk is held
with what came before it, or gives the character if it ends there. -/
theorem decodeFrom_within {c : Char} {held chunk rest : Bytes} (offset : Nat)
    (some_bytes : chunk ≠ []) (whole : String.utf8EncodeChar c = held ++ (chunk ++ rest)) :
    decodeFrom offset held chunk =
      .ok (if rest = [] then ([c], []) else ([], held ++ chunk)) := by
  induction chunk generalizing held with
  | nil => exact absurd rfl some_bytes
  | cons b chunk ih =>
    rw [decodeFrom, feed_encode whole]
    cases chunk with
    | nil =>
      by_cases last : rest = [] <;> simp [last, decodeFrom]
    | cons b' chunk =>
      have later := @ih (held ++ [b]) (by simp) (by simp [whole])
      simp [later]

/-- The characters that come out of bytes after those held, up to the end or the first byte that is
refused. -/
def legible (held : Bytes) : Bytes → Text
  | [] => []
  | b :: rest =>
    match feed held b with
    | .char c => c :: legible [] rest
    | .held bytes => legible bytes rest
    | .refused _ _ => []

theorem legible_encodeChar {c : Char} {held bytes : Bytes} (some_bytes : bytes ≠ [])
    (whole : String.utf8EncodeChar c = held ++ bytes) (rest : Bytes) :
    legible held (bytes ++ rest) = c :: legible [] rest := by
  induction bytes generalizing held with
  | nil => exact absurd rfl some_bytes
  | cons b bytes ih =>
    rw [List.cons_append, legible, feed_encode whole]
    cases bytes with
    | nil => simp
    | cons b' bytes =>
      have later := @ih (held ++ [b]) (by simp) (by simp [whole])
      simpa using later

/-- Encoded characters come out first, whatever follows them. -/
theorem legible_encode (t : Text) (rest : Bytes) :
    legible [] (encode t ++ rest) = t ++ legible [] rest := by
  induction t with
  | nil => rfl
  | cons c t ih =>
    rw [encode_cons, List.append_assoc,
      legible_encodeChar (encodeChar_ne_nil c) (List.nil_append _).symm, ih, List.cons_append]

private theorem legible_encode_self (t : Text) : legible [] (encode t) = t := by
  simpa [legible] using legible_encode t []

theorem encode_injective {t u : Text} (same : encode t = encode u) : t = u := by
  rw [← legible_encode_self t, same, legible_encode_self u]

/-- Bytes are a text if they are the encoding of what is read from them. -/
theorem exists_encode_iff {bytes : Bytes} :
    (∃ t, encode t = bytes) ↔ encode (legible [] bytes) = bytes := by
  constructor
  · rintro ⟨t, rfl⟩
    rw [legible_encode_self]
  · exact fun same => ⟨_, same⟩

private theorem encode_legible_begins {held : Bytes} (begun : IsHeld held) (bytes : Bytes) :
    encode (legible held bytes) <+: held ++ bytes := by
  induction bytes generalizing held with
  | nil => exact List.nil_prefix
  | cons b rest ih =>
    rw [legible]
    cases fed : feed held b with
    | char c =>
      have later := @ih [] trivial
      have split : held ++ b :: rest = (held ++ [b]) ++ ([] ++ rest) := by simp
      rw [encode_cons, encode_of_feed begun fed, split]
      exact (List.prefix_append_right_inj _).mpr later
    | held bytes =>
      obtain ⟨rfl, stillBegun⟩ := (feed_of_isHeld begun b).2 bytes fed
      have later := ih stillBegun
      simpa using later
    | refused fault run => exact List.nil_prefix

/-- The longest text whose encoding the bytes begin with. -/
def IsLongestText (bytes : Bytes) (t : Text) : Prop :=
  encode t <+: bytes ∧ ∀ u, encode u <+: bytes → (encode u).length ≤ (encode t).length

theorem isLongestText_legible (bytes : Bytes) : IsLongestText bytes (legible [] bytes) := by
  refine ⟨by simpa using @encode_legible_begins [] trivial bytes, ?_⟩
  rintro u ⟨rest, rfl⟩
  rw [legible_encode, encode_append]
  simp

/-- There is one longest text, the one that is read before a byte is refused. -/
theorem isLongestText_iff {bytes : Bytes} {t : Text} :
    IsLongestText bytes t ↔ t = legible [] bytes := by
  constructor
  · rintro ⟨begins, longest⟩
    obtain ⟨begins', longest'⟩ := isLongestText_legible bytes
    have same := Nat.le_antisymm (longest _ begins') (longest' _ begins)
    -- Both begin the same bytes and are equally long, so they are encoded alike.
    have nested := List.prefix_of_prefix_length_le begins begins' (Nat.le_of_eq same.symm)
    exact encode_injective (nested.eq_of_length same.symm)
  · rintro rfl
    exact isLongestText_legible bytes

end ShellWords.Utf8
