import ShellWords.Proofs.Text.Decoding
import ShellWords.Proofs.Token.Bytes
import ShellWords.Token.Units

/-!
# Units from chunks of bytes

Under a reader of tokens lies a reader of units: it reads on while a character is not complete, and
a call is a loop over what it gives (`Phase.scan_eq_scanUnit`). Chunks of bytes may end anywhere,
also within characters. However they are cut, the units that come out of them make up the text that
all the bytes encode, or the first part of it up to a decoding error (`Reader.units_of_chunks`).
-/
namespace ShellWords

/-- A call reads its stream unit by unit. -/
theorem Phase.scan_eq_scanUnit (k : Classifier) (mark : EndMark) (phase : Phase) (read : Text)
    (held : Bytes) (deliveries : List Delivery) :
    scan k mark phase read held deliveries =
      let ⟨answer, held, rest⟩ := scanUnit mark held deliveries
      match answer with
      | .error e => ⟨.error e, held, rest⟩
      | .ok unit =>
        if unit.isEmpty then ⟨phase.finish read, held, rest⟩
        else match phase.step (k.classify unit) unit with
          | .skip next => scan k mark next read held rest
          | .keep next => scan k mark next (unit.reverse ++ read) held rest
          | .emit kind => ⟨.ok (some ⟨kind, read.reverse⟩), held, rest⟩ := by
  fun_induction scanUnit mark held deliveries with
  | case1 held e received | case4 held delivery rest e received => rw [scan, received]
  | case2 held _ left received | case3 held left received | case6 held _ _ _ left received =>
    rewrite [scan, received]
    rfl
  | case5 held delivery rest left received ih =>
    rw [scan, received]
    exact ih

namespace Reader

/-- The reads give units that are not empty and make up a text, and then nothing more. -/
def GivesText (r : Reader) (s : Stream) (t : Text) : Prop :=
  ∃ units : List Text, [] ∉ units ∧ units.flatten = t ∧
    ∀ more, r.reads s (units.length + more) = units.map .ok ++ List.replicate more (.ok [])

/-- The reads give units that are not empty and make up a text, and then a decoding error. -/
def GivesUndecodable (r : Reader) (s : Stream) (t : Text) : Prop :=
  ∃ (units : List Text) (e : DecodeError), [] ∉ units ∧ units.flatten = t ∧
    r.reads s (units.length + 1) = units.map .ok ++ [.error (.undecodable e)]

end Reader

/-! ### One read -/

private theorem Receipt.ofDelivery_chunk (held : Bytes) {chunk : Bytes} (some_bytes : chunk ≠ []) :
    ofDelivery held (.bytes chunk) =
      match Utf8.decodeFrom 0 held chunk with
      | .ok ([], left) => .waiting left
      | .ok (chars, left) => .unit chars left
      | .error e => .failed (.undecodable e) := by
  obtain ⟨b, others, rfl⟩ := List.exists_cons_of_ne_nil some_bytes
  rw [ofDelivery]
  · rfl
  · intro empty
    cases empty

namespace Reader

section Read

variable {r r' : Reader} {s s' : Stream} {chunk left : Bytes} {chunks : List Bytes} {unit t : Text}

private theorem nextUnit_waiting (some_bytes : chunk ≠ [])
    (decoded : Utf8.decodeFrom 0 r.held chunk = .ok ([], left)) :
    r.nextUnit (.ofChunks (chunk :: chunks)) =
      ({ r with held := left } : Reader).nextUnit (.ofChunks chunks) := by
  have received := Receipt.ofDelivery_chunk r.held some_bytes
  rw [decoded] at received
  simp only [nextUnit, Stream.ofChunks, List.map_cons, scanUnit, received]

private theorem nextUnit_unit (some_bytes : chunk ≠ []) (some_text : unit ≠ [])
    (decoded : Utf8.decodeFrom 0 r.held chunk = .ok (unit, left)) :
    r.nextUnit (.ofChunks (chunk :: chunks)) =
      ⟨.ok unit, { r with held := left }, .ofChunks chunks⟩ := by
  obtain ⟨c, t, rfl⟩ := List.exists_cons_of_ne_nil some_text
  have received := Receipt.ofDelivery_chunk r.held some_bytes
  rw [decoded] at received
  simp only [nextUnit, Stream.ofChunks, List.map_cons, scanUnit, received]

private theorem nextUnit_refused (some_bytes : chunk ≠ []) {e : DecodeError}
    (refused : Utf8.decodeFrom 0 r.held chunk = .error e) :
    (r.nextUnit (.ofChunks (chunk :: chunks))).answer = .error (.undecodable e) := by
  have received := Receipt.ofDelivery_chunk r.held some_bytes
  rw [refused] at received
  simp only [nextUnit, Stream.ofChunks, List.map_cons, scanUnit, received]

private theorem nextUnit_end (none_held : r.held = []) :
    r.nextUnit (.ofChunks []) = ⟨.ok [], r, .ofChunks []⟩ := by
  obtain ⟨k, held⟩ := r
  obtain rfl : held = [] := none_held
  rfl

private theorem nextUnit_end_held (some_held : r.held ≠ []) :
    ∃ e, (r.nextUnit (.ofChunks [])).answer = .error (.undecodable e) := by
  obtain ⟨e, received⟩ := Receipt.ofDelivery_end some_held
  refine ⟨e, ?_⟩
  simp only [nextUnit, Stream.ofChunks, List.map_nil, scanUnit, EndMark.delivery, received]

/-! ### Many reads -/

private theorem reads_congr (same : r.nextUnit s = r'.nextUnit s') : r.reads s = r'.reads s' := by
  funext count
  cases count with
  | zero => rfl
  | succ count => rw [reads, reads, same]

theorem GivesText.cons (read : r.nextUnit s = ⟨.ok unit, r', s'⟩) (some_text : unit ≠ [])
    (later : r'.GivesText s' t) : r.GivesText s (unit ++ t) := by
  obtain ⟨units, nonempty, rfl, given⟩ := later
  refine ⟨unit :: units, List.not_mem_cons_of_ne_of_not_mem some_text.symm nonempty, rfl, ?_⟩
  intro more
  rw [List.length_cons, Nat.add_right_comm, reads, read, given]
  rfl

private theorem GivesText.of_end (read : r.nextUnit s = ⟨.ok [], r, s⟩) : r.GivesText s [] := by
  refine ⟨[], List.not_mem_nil, rfl, fun more => ?_⟩
  rw [List.length_nil, Nat.zero_add, List.map_nil, List.nil_append]
  induction more with
  | zero => rfl
  | succ more ih => rw [reads, read, ih, List.replicate_succ]

theorem GivesUndecodable.cons (read : r.nextUnit s = ⟨.ok unit, r', s'⟩) (some_text : unit ≠ [])
    (later : r'.GivesUndecodable s' t) : r.GivesUndecodable s (unit ++ t) := by
  obtain ⟨units, e, nonempty, rfl, given⟩ := later
  refine ⟨unit :: units, e, List.not_mem_cons_of_ne_of_not_mem some_text.symm nonempty, rfl, ?_⟩
  rw [List.length_cons, reads, read, given]
  rfl

private theorem GivesUndecodable.of_error {e : DecodeError}
    (failed : (r.nextUnit s).answer = .error (.undecodable e)) : r.GivesUndecodable s [] := by
  refine ⟨[], e, List.not_mem_nil, rfl, ?_⟩
  rw [List.length_nil, reads, failed]
  rfl

end Read

/-- Chunks are read to the end if the bytes held and theirs encode a text, which the units make up;
else to a decoding error, and the units before it make up a text that these bytes begin with. -/
theorem gives_ofChunks {chunks : List Bytes} (nonempty : [] ∉ chunks) (r : Reader)
    (begun : Utf8.IsHeld r.held) :
    (∃ t, Utf8.encode t = r.held ++ chunks.flatten ∧ r.GivesText (.ofChunks chunks) t) ∨
    ((∀ t, Utf8.encode t ≠ r.held ++ chunks.flatten) ∧
      ∃ t, Utf8.encode t <+: r.held ++ chunks.flatten ∧
        r.GivesUndecodable (.ofChunks chunks) t) := by
  induction chunks generalizing r with
  | nil =>
    rw [List.flatten_nil, List.append_nil]
    by_cases none_held : r.held = []
    · exact .inl ⟨[], none_held.symm, .of_end (nextUnit_end none_held)⟩
    · obtain ⟨e, failed⟩ := nextUnit_end_held none_held
      refine .inr ⟨fun t whole => ?_, [], List.nil_prefix, .of_error failed⟩
      -- What is held is the beginning of one character, so it is no text.
      have nothing : t = [] := by
        rw [← whole, ← List.append_nil (Utf8.encode t)] at begun
        exact Utf8.eq_nil_of_isHeld_encode begun
      rw [nothing] at whole
      exact none_held whole.symm
  | cons chunk chunks ih =>
    obtain ⟨some_bytes, others⟩ := List.ne_and_not_mem_of_not_mem_cons nonempty
    rw [List.flatten_cons]
    cases decoded : Utf8.decodeFrom 0 r.held chunk with
    | error e =>
      refine .inr ⟨fun t whole => ?_, [], List.nil_prefix,
        .of_error (nextUnit_refused some_bytes.symm decoded)⟩
      have read := (Utf8.decodeFrom_eq_ok_iff begun 0 (chunk ++ chunks.flatten) t []).mpr
        ⟨by rw [whole, List.append_nil], trivial⟩
      rw [Utf8.decodeFrom_append_of_error decoded] at read
      cases read
    | ok given =>
      obtain ⟨unit, left⟩ := given
      obtain ⟨split, stillBegun⟩ := (Utf8.decodeFrom_eq_ok_iff begun 0 chunk unit left).mp decoded
      have later := ih others { r with held := left } stillBegun
      rw [← List.append_assoc, split, List.append_assoc]
      by_cases some_text : unit = []
      · subst some_text
        have same := reads_congr (@nextUnit_waiting r chunk left chunks some_bytes.symm decoded)
        simp only [GivesText, GivesUndecodable, same]
        exact later
      · have read := @nextUnit_unit r chunk left chunks unit some_bytes.symm some_text decoded
        rcases later with ⟨t, whole, gives⟩ | ⟨noText, t, begins, gives⟩
        · exact .inl ⟨unit ++ t, by rw [Utf8.encode_append, whole], gives.cons read some_text⟩
        · refine .inr ⟨fun u whole => ?_, unit ++ t, ?_, gives.cons read some_text⟩
          · rw [← List.append_nil (Utf8.encode u)] at whole
            obtain ⟨t', -, rest⟩ := Utf8.exists_eq_append_of_encode whole.symm trivial
            exact noText t' (by rw [rest, List.append_nil])
          · rw [Utf8.encode_append]
            exact (List.prefix_append_right_inj _).mpr begins

/-- Bytes are decoded just when they encode a text. However they are cut into chunks, reading them
unit by unit then gives no empty unit before the end, and the units make up this text. Reading other
bytes ends in a decoding error without an empty unit before it, and the units make up the first part
of the longest text that the bytes begin with. So the chunks of an encoded text give exactly it. -/
theorem units_of_chunks (k : Classifier) (chunks : List Bytes) (nonempty : [] ∉ chunks) :
    (∀ t, Utf8.decode chunks.flatten = .ok t ↔ Utf8.encode t = chunks.flatten) ∧
    (∀ t, Utf8.decode chunks.flatten = .ok t →
      ({ classifier := k } : Reader).GivesText (.ofChunks chunks) t) ∧
    (∀ e, Utf8.decode chunks.flatten = .error e →
      ∃ longest given, Utf8.IsLongestText chunks.flatten longest ∧ given <+: longest ∧
        ({ classifier := k } : Reader).GivesUndecodable (.ofChunks chunks) given) ∧
    ∀ t, chunks.flatten = Utf8.encode t →
      ({ classifier := k } : Reader).GivesText (.ofChunks chunks) t := by
  -- What reading gives tells texts from other bytes, and so does decoding.
  have reads := gives_ofChunks nonempty { classifier := k } trivial
  simp only [List.nil_append] at reads
  have valid (t : Text) (whole : chunks.flatten = Utf8.encode t) :
      ({ classifier := k } : Reader).GivesText (.ofChunks chunks) t := by
    rcases reads with ⟨u, same, gives⟩ | ⟨noText, -⟩
    · rwa [← Utf8.encode_injective (same.trans whole)]
    · exact absurd whole.symm (noText t)
  refine ⟨fun t => Utf8.decode_eq_ok_iff,
    fun t decoded => valid t (Utf8.decode_eq_ok_iff.mp decoded).symm, fun e refused => ?_, valid⟩
  rcases reads with ⟨t, whole, -⟩ | ⟨-, given, ⟨rest, begins⟩, gives⟩
  · rw [Utf8.decode_eq_ok_iff.mpr whole] at refused
    cases refused
  · refine ⟨_, given, Utf8.isLongestText_legible chunks.flatten, ?_, gives⟩
    rw [← begins, Utf8.legible_encode]
    exact List.prefix_append _ _

/-- Chunks that end within a character of three bytes and within one of four; and a chunk whose
first character is lost with the byte after it, which cannot begin one. -/
theorem units_of_chunks_within :
    [] ∉ ([[0xE2], [0x82, 0xAC, 0x20, 0xF0], [0x9F, 0x98], [0x80]] : List Bytes) ∧
    ({} : Reader).GivesText (.ofChunks [[0xE2], [0x82, 0xAC, 0x20, 0xF0], [0x9F, 0x98], [0x80]])
      "€ 😀" ∧
    [] ∉ ([[0x61], [0x62, 0xFF]] : List Bytes) ∧
    Utf8.decode [0x61, 0x62, 0xFF] = .error ⟨.invalidStart, 2, [0xFF]⟩ ∧
    ∃ longest given, Utf8.IsLongestText [0x61, 0x62, 0xFF] longest ∧ given <+: longest ∧
      ({} : Reader).GivesUndecodable (.ofChunks [[0x61], [0x62, 0xFF]]) given := by
  have cut : [] ∉ ([[0xE2], [0x82, 0xAC, 0x20, 0xF0], [0x9F, 0x98], [0x80]] : List Bytes) := by
    decide
  have refused : Utf8.decode [0x61, 0x62, 0xFF] = .error ⟨.invalidStart, 2, [0xFF]⟩ := rfl
  exact ⟨cut, (units_of_chunks {} _ cut).2.2.2 _ rfl, by decide, refused,
    (units_of_chunks {} [[0x61], [0x62, 0xFF]] (by decide)).2.2.1 _ refused⟩

end Reader

end ShellWords
