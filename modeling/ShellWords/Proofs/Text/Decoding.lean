import ShellWords.Proofs.Text.Utf8

/-!
# Decoding part by part

`decodeFrom_eq_ok_iff` says all that a decoder does with more bytes: it gives a text and holds some
bytes just when those held before and the new ones are the encoding of the text and then the bytes
held, and these are the beginning of a character. So it does not matter where the bytes are cut, and
bytes are decoded as a whole just when they encode a text (`decode_eq_ok_iff`).
-/
namespace ShellWords.Utf8

/-! ### The beginning of a character -/

private theorem IsHeld.length_lt_width {lead : UInt8} {others : Bytes}
    (held : IsHeld (lead :: others)) :
    (lead :: others).length < width lead := by
  match others with
  | [] => exact held
  | [b] =>
    rcases held with surrogate | ⟨wide, -⟩
    · obtain ⟨isLead, -, -⟩ := (startsSurrogate_pair_iff lead b).mp surrogate
      have three : width lead = 3 := (width_eq_iff lead).2.2.1.mpr (by omega)
      simp [three]
    · exact wide
  | [_, _] =>
    obtain ⟨four, -, -⟩ := held
    simp [four]
  | _ :: _ :: _ :: _ => cases held

private theorem IsCharacter.length_eq_width {lead : UInt8} {others : Bytes}
    (character : IsCharacter (lead :: others)) : (lead :: others).length = width lead := by
  match others with
  | [] => exact character.symm
  | [_] | [_, _] | [_, _, _] => exact character.1.symm
  | _ :: _ :: _ :: _ :: _ => cases character

/-- What is held begins with no whole character. -/
theorem not_isHeld_encodeChar_append (c : Char) (rest : Bytes) :
    ¬ IsHeld (String.utf8EncodeChar c ++ rest) := by
  intro held
  have character := (isCharacter_encode c).1
  obtain ⟨lead, others, whole⟩ := List.exists_cons_of_ne_nil (encodeChar_ne_nil c)
  rw [whole] at held character
  have shorter := IsHeld.length_lt_width (List.cons_append ▸ held)
  rw [← List.cons_append, List.length_append, character.length_eq_width] at shorter
  omega

theorem eq_nil_of_isHeld_encode {t : Text} {rest : Bytes} (held : IsHeld (encode t ++ rest)) :
    t = [] := by
  cases t with
  | nil => rfl
  | cons c t =>
    rw [encode_cons, List.append_assoc] at held
    exact absurd held (not_isHeld_encodeChar_append c _)

/-- Of bytes that can be held together, each one is held when it comes. -/
private theorem feed_of_isHeld_append {held rest : Bytes} {b : UInt8}
    (begun : IsHeld (held ++ b :: rest)) : feed held b = .held (held ++ [b]) := by
  match held, rest with
  | [], _ =>
    have wide := IsHeld.length_lt_width begun
    rw [List.length_cons] at wide
    simp only [feed]
    split
    · omega
    · omega
    · rfl
  | [a], [] =>
    rcases begun with surrogate | ⟨wide, follows⟩
    · simp [feed, surrogate, startsSurrogate_of_length_ne]
    · have unfinished : ¬ 2 = width a := Nat.ne_of_lt wide
      simp [feed, follows, unfinished, startsSurrogate_of_length_ne,
        startsSurrogate_of_continues follows]
  | [a], [c] =>
    obtain ⟨four, follows, -⟩ := begun
    simp [feed, four, follows, startsSurrogate_of_length_ne, startsSurrogate_of_continues follows]
  | [a, a'], [] =>
    obtain ⟨four, first, follows⟩ := begun
    simp [feed, four, follows, startsSurrogate_of_length_ne, startsSurrogate_of_continues first]
  | [_], _ :: _ :: _ | [_, _], _ :: _ | _ :: _ :: _ :: _, _ => simp [IsHeld] at begun

/-- Where bytes that are held, and more behind them, begin with a character, those held are a part
of it. -/
private theorem exists_encodeChar_eq {c : Char} {held rest more : Bytes} {b : UInt8}
    (begun : IsHeld held)
    (same : held ++ b :: rest = String.utf8EncodeChar c ++ more) :
    ∃ later, String.utf8EncodeChar c = held ++ b :: later := by
  rcases List.append_eq_append_iff.mp same with ⟨tail, whole, after⟩ | ⟨tail, whole, -⟩
  · cases tail with
    | nil =>
      rw [List.append_nil] at whole
      exact absurd begun (by simpa [whole] using not_isHeld_encodeChar_append c [])
    | cons b' later =>
      obtain ⟨rfl, -⟩ := List.cons.inj after
      exact ⟨later, whole⟩
  · rw [whole] at begun
    exact absurd begun (not_isHeld_encodeChar_append c tail)

/-- A byte is not refused where a text or the beginning of a character goes on. -/
private theorem feed_ne_refused {held rest left : Bytes} {b : UInt8} {t : Text}
    (begun : IsHeld held)
    (same : held ++ b :: rest = encode t ++ left) (unfinished : IsHeld left)
    (fault : DecodeFault) (run : Bytes) : feed held b ≠ .refused fault run := by
  cases t with
  | nil =>
    obtain rfl : held ++ b :: rest = left := same
    rw [feed_of_isHeld_append unfinished]
    nofun
  | cons c t =>
    rw [encode_cons, List.append_assoc] at same
    obtain ⟨later, whole⟩ := exists_encodeChar_eq begun same
    rw [feed_encode whole]
    split <;> nofun

/-- A character that comes out of the first bytes of a text is the first one of the text. -/
private theorem exists_eq_cons_of_encode {c : Char} {rest left : Bytes} {t : Text}
    (same : String.utf8EncodeChar c ++ rest = encode t ++ left) (unfinished : IsHeld left) :
    ∃ u, t = c :: u ∧ rest = encode u ++ left := by
  cases t with
  | nil =>
    obtain rfl : String.utf8EncodeChar c ++ rest = left := same
    exact absurd unfinished (not_isHeld_encodeChar_append c rest)
  | cons d u =>
    rw [encode_cons, List.append_assoc] at same
    have read := congrArg (legible []) same
    rw [legible_encodeChar (encodeChar_ne_nil c) rfl, legible_encodeChar (encodeChar_ne_nil d) rfl]
      at read
    obtain ⟨rfl, -⟩ := List.cons.inj read
    exact ⟨u, rfl, List.append_cancel_left same⟩

/-- Characters that come out of the first bytes of a text are the first ones of the text. -/
theorem exists_eq_append_of_encode {v t : Text} {rest left : Bytes}
    (same : encode v ++ rest = encode t ++ left) (unfinished : IsHeld left) :
    ∃ u, t = v ++ u ∧ rest = encode u ++ left := by
  induction v generalizing t with
  | nil => exact ⟨t, rfl, same⟩
  | cons c v ih =>
    rw [encode_cons, List.append_assoc] at same
    obtain ⟨u, rfl, after⟩ := exists_eq_cons_of_encode same unfinished
    obtain ⟨w, rfl, later⟩ := ih after
    exact ⟨w, rfl, later⟩

/-! ### More bytes -/

/-- What decoding gives and what it holds: the text that the bytes begin with, and the rest, which
is the beginning of a character. Nothing else can be given or held. -/
theorem decodeFrom_eq_ok_iff {held : Bytes} (begun : IsHeld held) (offset : Nat) (bytes : Bytes)
    (t : Text) (left : Bytes) :
    decodeFrom offset held bytes = .ok (t, left) ↔
      held ++ bytes = encode t ++ left ∧ IsHeld left := by
  -- By induction on the bytes, for whatever is held: a byte gives a character, is held with the
  -- others, or is refused, and each of these says how the text begins.
  induction bytes generalizing offset held t with
  | nil =>
    rw [decodeFrom, List.append_nil]
    constructor
    · intro same
      cases same
      exact ⟨rfl, begun⟩
    · rintro ⟨rfl, -⟩
      rw [eq_nil_of_isHeld_encode begun]
      rfl
  | cons b rest ih =>
    rw [decodeFrom]
    cases fed : feed held b with
    | char c =>
      have whole := encode_of_feed begun fed
      have split : held ++ b :: rest = String.utf8EncodeChar c ++ rest := by simp [whole]
      have later := @ih [] trivial (offset + held.length + 1)
      rw [split]
      constructor
      · intro same
        dsimp only at same
        split at same
        · next u left' decoded =>
          cases same
          obtain ⟨after, unfinished⟩ := (later u).mp decoded
          rw [List.nil_append] at after
          rw [encode_cons, List.append_assoc, after]
          exact ⟨rfl, unfinished⟩
        · cases same
      · rintro ⟨same, unfinished⟩
        obtain ⟨u, rfl, after⟩ := exists_eq_cons_of_encode same unfinished
        rw [(later u).mpr ⟨after, unfinished⟩]
    | held bytes =>
      obtain ⟨rfl, stillBegun⟩ := (feed_of_isHeld begun b).2 bytes fed
      have later := ih stillBegun offset t
      simpa using later
    | refused fault run =>
      constructor
      · intro same
        cases same
      · rintro ⟨same, unfinished⟩
        exact absurd fed (feed_ne_refused begun same unfinished fault run)

/-- A byte that is refused is refused whatever comes after it. -/
theorem decodeFrom_append_of_error {offset : Nat} {held first : Bytes} {e : DecodeError}
    (refused : decodeFrom offset held first = .error e) (second : Bytes) :
    decodeFrom offset held (first ++ second) = .error e := by
  induction first generalizing offset held e with
  | nil => cases refused
  | cons b rest ih =>
    rw [decodeFrom] at refused
    rw [List.cons_append, decodeFrom]
    cases fed : feed held b with
    | char c =>
      rw [fed] at refused
      dsimp only at refused ⊢
      split at refused
      · cases refused
      · next e' later =>
        rw [ih later]
        exact refused
    | held bytes =>
      rw [fed] at refused
      exact ih refused
    | refused fault run =>
      rw [fed] at refused
      exact refused

/-! ### All bytes -/

theorem decodeEnd_eq_ok_iff {offset : Nat} {held : Bytes} :
    decodeEnd offset held = .ok () ↔ held = [] := by
  cases held with
  | nil => exact iff_of_true rfl rfl
  | cons lead others =>
    refine iff_of_false ?_ nofun
    rw [decodeEnd]
    split <;> nofun

/-- Bytes are decoded just when they encode a text, and give that text. -/
theorem decode_eq_ok_iff {bytes : Bytes} {t : Text} :
    decode bytes = .ok t ↔ encode t = bytes := by
  have whole := @decodeFrom_eq_ok_iff [] trivial 0 bytes
  simp only [List.nil_append] at whole
  rw [decode]
  constructor
  · intro decoded
    split at decoded
    · next u left read =>
      cases ended : decodeEnd (bytes.length - left.length) left with
      | error e =>
        rw [ended] at decoded
        cases decoded
      | ok =>
        rw [ended] at decoded
        cases decoded
        rw [(whole u left).mp read |>.1, decodeEnd_eq_ok_iff.mp ended, List.append_nil]
    · cases decoded
  · rintro rfl
    rw [(whole t []).mpr ⟨(List.append_nil _).symm, trivial⟩]
    rfl

end ShellWords.Utf8
