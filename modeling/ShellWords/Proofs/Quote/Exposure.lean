import ShellWords.Proofs.Text.Lines
import ShellWords.Quote
import ShellWords.Quote.Exposure

/-!
# What quoting lets through

A shell that scans quoted and joined words meets three kinds of characters outside single quotes:
the quotes themselves, harmless characters, and the blanks between the words. Each character of a
word stands where `Text.shelter` says, and the quotes are closed at the end.
-/
namespace ShellWords

/-- The characters that need no quotes, written out. -/
def safeCharacters : Text :=
  "ABCDEFGHIJKLMNOPQRSTUVWXYZabcdefghijklmnopqrstuvwxyz0123456789@%_+=:,./-"

private theorem toNat_lt_of_isSafe {c : Char} (safe : isSafe c = true) : c.toNat < 128 := by
  simp only [isSafe, Bool.or_eq_true, List.contains_iff_mem] at safe
  rcases safe with alphanumeric | punctuation
  · delta Char.isAlphanum Char.isAlpha Char.isUpper Char.isLower Char.isDigit at alphanumeric
    simp only [Bool.or_eq_true, Bool.and_eq_true, decide_eq_true_eq, UInt32.le_iff_toNat_le,
      Char.reduceVal, UInt32.reduceToNat] at alphanumeric
    simp only [Char.toNat]
    omega
  · have listed : ['@', '%', '_', '+', '=', ':', ',', '.', '/', '-'].all (·.toNat < 128) = true :=
      rfl
    simpa using List.all_eq_true.mp listed c punctuation

theorem isSafe_iff_mem {c : Char} : isSafe c = true ↔ c ∈ safeCharacters := by
  constructor
  · intro safe
    -- Safe characters are below 128, so that there are finitely many to look at.
    have listed : ∀ n < 128, isSafe (Char.ofNat n) = true → Char.ofNat n ∈ safeCharacters := by
      decide +kernel
    have member := listed c.toNat (toNat_lt_of_isSafe safe)
    rw [Char.ofNat_toNat] at member
    exact member safe
  · have safe : safeCharacters.all isSafe = true := by decide +kernel
    exact List.all_eq_true.mp safe c

namespace Quoting

/-- Whether a character is met inside or outside of quotes, and is not a quote that opens or closes
them. -/
def isContent (exposure : Quoting × Char) : Bool := exposure.1.next exposure.2 = exposure.1

/-- What is left of a text without its quotes, each character with the quoting it is met in. -/
def contents (start : Quoting) (t : Text) : List (Quoting × Char) :=
  (start.exposures t).filter isContent

theorem after_append (q : Quoting) (s t : Text) : q.after (s ++ t) = (q.after s).after t :=
  List.foldl_append

theorem exposures_append (q : Quoting) (s t : Text) :
    q.exposures (s ++ t) = q.exposures s ++ (q.after s).exposures t := by
  induction s generalizing q with
  | nil => rfl
  | cons c s ih =>
    simp only [List.cons_append, exposures]
    rw [ih]
    rfl

theorem contents_append (q : Quoting) (s t : Text) :
    q.contents (s ++ t) = q.contents s ++ (q.after s).contents t := by
  rw [contents, exposures_append, List.filter_append]
  rfl

/-- Only quotes change the quoting. -/
private theorem eq_quote_of_not_isContent {q : Quoting} {c : Char}
    (changes : isContent (q, c) = false) :
    c = '\'' ∨ c = '"' := by
  simp only [isContent, decide_eq_false_iff_not] at changes
  by_cases single : c = '\''
  · exact .inl single
  · by_cases double : c = '"'
    · exact .inr double
    · exact absurd (by cases q <;> simp [next, single, double]) changes

theorem mem_contents_or_quote {q q' : Quoting} {t : Text} {c : Char}
    (met : (q', c) ∈ q.exposures t) : (q', c) ∈ q.contents t ∨ c = '\'' ∨ c = '"' := by
  cases kind : isContent (q', c) with
  | true => exact .inl (List.mem_filter.mpr ⟨met, kind⟩)
  | false => exact .inr (eq_quote_of_not_isContent kind)

end Quoting

namespace Text

open Quoting (after contents)

/-- The quoting that a character of a word stands in once the word is quoted. -/
def shelter (word : Text) (c : Char) : Quoting :=
  if word.all isSafe then .bare else if c = '\'' then .double else .single

/-! ### One word -/

private theorem safe_exposed (word : Text) (safe : ∀ c ∈ word, isSafe c = true) :
    after .bare word = .bare ∧ contents .bare word = word.map (.bare, ·) := by
  induction word with
  | nil => exact ⟨rfl, rfl⟩
  | cons c word ih =>
    obtain ⟨closed, plain⟩ := ih fun d member => safe d (by simp [member])
    have stays : Quoting.bare.next c = .bare := by
      have notQuote : c ≠ '\'' ∧ c ≠ '"' := by
        constructor <;> rintro rfl <;> exact absurd (safe _ List.mem_cons_self) (by decide)
      simp [Quoting.next, notQuote]
    constructor
    · rw [after, List.foldl_cons, stays]
      exact closed
    · simp only [contents, Quoting.exposures, stays, List.filter_cons, Quoting.isContent] at plain ⊢
      simpa using plain

/-- A single quote is let out of the quotes and back in, all else stays in them. -/
private theorem quoteChar_exposed (c : Char) :
    after .single (quoteChar c) = .single ∧
    contents .single (quoteChar c) = [(if c = '\'' then .double else .single, c)] := by
  by_cases quote : c = '\''
  · subst c
    exact ⟨rfl, rfl⟩
  · simp [quoteChar, quote, after, contents, Quoting.exposures, Quoting.isContent, Quoting.next]

private theorem quoteChars_exposed (word : Text) :
    after .single (word.flatMap quoteChar) = .single ∧
    contents .single (word.flatMap quoteChar) =
      word.map fun c => (if c = '\'' then .double else .single, c) := by
  induction word with
  | nil => exact ⟨rfl, rfl⟩
  | cons c word ih =>
    obtain ⟨inside, content⟩ := quoteChar_exposed c
    rw [List.flatMap_cons, Quoting.after_append, Quoting.contents_append, inside, content, ih.1,
      ih.2]
    exact ⟨rfl, rfl⟩

/-- A quoted word closes its quotes, and each of its characters is sheltered. -/
theorem quote_exposed (word : Text) :
    after .bare word.quote = .bare ∧
    contents .bare word.quote = word.map fun c => (shelter word c, c) := by
  unfold quote
  split
  · next empty =>
    obtain rfl := List.isEmpty_iff.mp empty
    exact ⟨rfl, rfl⟩
  · split
    · next safe =>
      obtain ⟨closed, plain⟩ := safe_exposed word (by simpa using safe)
      refine ⟨closed, plain.trans ?_⟩
      simp [shelter, safe]
    · next special =>
      obtain ⟨inside, content⟩ := quoteChars_exposed word
      have opened : after .bare ['\''] = .single := rfl
      have closed : after .single ['\''] = .bare := rfl
      -- The text is cut into the opening quote, the characters and the closing quote.
      rw [← List.singleton_append, Quoting.after_append, Quoting.after_append, opened, inside,
        Quoting.contents_append, Quoting.contents_append, opened, inside, content]
      refine ⟨closed, ?_⟩
      simp [shelter, special, contents, Quoting.exposures, Quoting.isContent, Quoting.next]

/-! ### Joined words -/

/-- Parts that close their quotes are met as if each of them stood alone. -/
private theorem intercalate_exposed (parts : List Text)
    (closed : ∀ part ∈ parts, after .bare part = .bare) :
    after .bare (List.intercalate [' '] parts) = .bare ∧
    contents .bare (List.intercalate [' '] parts) =
      List.intercalate [(.bare, ' ')] (parts.map (contents .bare)) := by
  induction parts with
  | nil => exact ⟨rfl, rfl⟩
  | cons part parts ih =>
    have first := closed part (by simp)
    obtain ⟨later, content⟩ := ih fun other member => closed other (by simp [member])
    -- A blank comes only before another part.
    cases parts with
    | nil => simpa using first
    | cons next parts =>
      have blank : after .bare [' '] = .bare ∧ contents .bare [' '] = [(.bare, ' ')] := ⟨rfl, rfl⟩
      rw [List.intercalate_cons_cons, Quoting.after_append, Quoting.after_append, first, blank.1,
        Quoting.contents_append, Quoting.contents_append, first, Quoting.after_append, first,
        blank.1, blank.2, content]
      refine ⟨later, ?_⟩
      simp [List.intercalate_cons_cons]

/-- Joined words close their quotes, and are met as their sheltered characters with bare blanks
between the words. -/
theorem joinQuoted_exposed (words : List Text) :
    after .bare (joinQuoted words) = .bare ∧
    contents .bare (joinQuoted words) =
      List.intercalate [(.bare, ' ')] (words.map fun w => w.map fun c => (shelter w c, c)) := by
  have closed : ∀ part ∈ words.map quote, after .bare part = .bare := by
    simpa using fun word _ => (quote_exposed word).1
  have sheltered : (words.map quote).map (contents .bare) =
      words.map fun w => w.map fun c => (shelter w c, c) := by
    rw [List.map_map]
    exact List.map_congr_left fun word _ => (quote_exposed word).2
  obtain ⟨ended, content⟩ := intercalate_exposed _ closed
  rw [sheltered] at content
  exact ⟨ended, content⟩

/-! ### Where a character can stand -/

private theorem shelter_eq_single {word : Text} {c : Char} (member : c ∈ word)
    (special : isSafe c = false)
    (notQuote : c ≠ '\'') : shelter word c = .single := by
  have exposed : word.all isSafe = false := by
    simpa [List.all_eq_false] using ⟨c, member, special⟩
  simp [shelter, exposed, notQuote]

theorem isSafe_of_shelter {word : Text} {c : Char} (member : c ∈ word)
    (bare : shelter word c = .bare) : isSafe c = true := by
  unfold shelter at bare
  split at bare
  · next safe => exact List.all_eq_true.mp safe c member
  · split at bare <;> cases bare

theorem eq_quote_of_shelter {word : Text} {c : Char} (double : shelter word c = .double) :
    c = '\'' := by
  unfold shelter at double
  split at double
  · cases double
  · split at double
    · assumption
    · cases double

private theorem count_intercalate {α : Type} [BEq α] [LawfulBEq α] {separator : α}
    {parts : List (List α)}
    (absent : ∀ part ∈ parts, separator ∉ part) :
    (List.intercalate [separator] parts).count separator = parts.length - 1 := by
  induction parts with
  | nil => rfl
  | cons part parts ih =>
    have first := List.count_eq_zero_of_not_mem (absent part (by simp))
    have later := ih fun other member => absent other (by simp [member])
    cases parts with
    | nil => simpa using first
    | cons next parts =>
      rw [List.intercalate_cons_cons, List.count_append, List.count_append, first, later]
      simp only [List.count_singleton_self, List.length_cons]
      omega

/-- A character that is met, and is not a quote of the quoting, is a blank between words or a
character of a word under its shelter. -/
theorem mem_contents_joinQuoted {words : List Text} {q : Quoting} {c : Char}
    (met : (q, c) ∈ contents .bare (joinQuoted words)) :
    (q = .bare ∧ c = ' ') ∨ ∃ w ∈ words, c ∈ w ∧ shelter w c = q := by
  rw [(joinQuoted_exposed words).2] at met
  rcases mem_intercalate met with between | ⟨part, listed, member⟩
  · exact .inl (Prod.mk.inj (List.mem_singleton.mp between))
  · obtain ⟨w, word, rfl⟩ := List.mem_map.mp listed
    obtain ⟨d, inWord, same⟩ := List.mem_map.mp member
    obtain ⟨quoting, rfl⟩ := Prod.mk.inj same
    exact .inr ⟨w, word, inWord, quoting⟩

/-- The blanks between the words are the only ones that are met bare. -/
private theorem count_bare_blank (words : List Text) :
    ((Quoting.bare).exposures (joinQuoted words)).count (.bare, ' ') = words.length - 1 := by
  have content : Quoting.isContent (.bare, ' ') = true := rfl
  -- A blank is not safe, so no word shows one bare.
  have absent : ∀ part ∈ words.map (fun w => w.map fun c => (shelter w c, c)),
      (Quoting.bare, ' ') ∉ part := by
    intro part listed member
    obtain ⟨w, -, rfl⟩ := List.mem_map.mp listed
    obtain ⟨c, inWord, same⟩ := List.mem_map.mp member
    obtain ⟨bare, rfl⟩ := Prod.mk.inj same
    exact absurd (isSafe_of_shelter inWord bare) (by decide)
  have counted := count_intercalate absent
  rw [← (joinQuoted_exposed words).2, List.length_map] at counted
  exact (List.count_filter content).symm.trans counted

/-- Quoting shuts in whatever could mean something to the shell. The quotes are closed at the end;
bare are only quotes, safe characters and the blanks between words; in double quotes are only single
quotes, up to the closing one. So any other character of a word is in single quotes. -/
theorem joinQuoted_shuts_in (words : List Text) :
    after .bare (joinQuoted words) = .bare ∧
    (∀ c, (Quoting.bare, c) ∈ Quoting.exposures .bare (joinQuoted words) →
      c = '\'' ∨ c = '"' ∨ c ∈ safeCharacters ∨ c = ' ') ∧
    (Quoting.exposures .bare (joinQuoted words)).count (.bare, ' ') = words.length - 1 ∧
    (∀ c, (Quoting.double, c) ∈ Quoting.exposures .bare (joinQuoted words) →
      c = '\'' ∨ Quoting.double.next c = .bare) ∧
    (∀ q c, (q, c) ∈ Quoting.exposures .bare (joinQuoted words) →
      c ∉ safeCharacters → c ≠ '\'' → c ≠ '"' → c ≠ ' ' → q = .single) ∧
    contents .bare (joinQuoted words) =
      List.intercalate [(.bare, ' ')] (words.map fun w => w.map fun c => (shelter w c, c)) ∧
    (∀ w ∈ words, ∀ c ∈ w, c ∉ safeCharacters → c ≠ '\'' → shelter w c = .single) := by
  -- What is met is a quote of the quoting, a blank between words, or a character of a word under
  -- its shelter; each statement goes through these cases.
  obtain ⟨ended, content⟩ := joinQuoted_exposed words
  simp only [← isSafe_iff_mem]
  refine ⟨ended, ?_, count_bare_blank words, ?_, ?_, content, ?_⟩
  · intro c met
    rcases Quoting.mem_contents_or_quote met with inside | quote | quote
    · rcases mem_contents_joinQuoted inside with ⟨-, blank⟩ | ⟨w, -, inWord, bare⟩
      · exact .inr (.inr (.inr blank))
      · exact .inr (.inr (.inl (isSafe_of_shelter inWord bare)))
    · exact .inl quote
    · exact .inr (.inl quote)
  · intro c met
    rcases Quoting.mem_contents_or_quote met with inside | quote | rfl
    · rcases mem_contents_joinQuoted inside with ⟨double, -⟩ | ⟨w, -, -, double⟩
      · cases double
      · exact .inl (eq_quote_of_shelter double)
    · exact .inl quote
    · exact .inr rfl
  · intro q c met special notSingle notDouble notBlank
    rcases Quoting.mem_contents_or_quote met with inside | quote | quote
    · rcases mem_contents_joinQuoted inside with ⟨-, blank⟩ | ⟨w, -, inWord, rfl⟩
      · exact absurd blank notBlank
      · exact shelter_eq_single inWord (by simpa using special) notSingle
    · exact absurd quote notSingle
    · exact absurd quote notDouble
  · intro w _ c inWord special notSingle
    exact shelter_eq_single inWord (by simpa using special) notSingle

/-- A dollar in a word is in single quotes, and a blank in it is not one of those between words. -/
theorem joinQuoted_shuts_in_dollar :
    joinQuoted ["it's", "$x y"] = "'it'\"'\"'s' '$x y'" ∧
    shelter "$x y" '$' = .single ∧
    ((Quoting.bare).exposures (joinQuoted ["it's", "$x y"])).count (.bare, ' ') = 1 := by
  have shut := joinQuoted_shuts_in ["it's", "$x y"]
  obtain ⟨-, -, blanks, -, -, -, sheltered⟩ := shut
  refine ⟨rfl, ?_, blanks⟩
  exact sheltered "$x y" (by decide) '$' (by decide) (by decide) (by decide)

end Text

end ShellWords
