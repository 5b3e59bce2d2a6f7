import ShellWords.Proofs.Path
import ShellWords.Proofs.Quote.RoundTrip
import ShellWords.Proofs.Settings.Merge
import ShellWords.Settings.Printer

/-!
# Written settings are read back

What a text can set has no line break in it, for each line is read alone, and its paths are normal
and have no tilde left. Such settings are written on lines that are cut again where they were
joined, whose words are read back, and whose paths are read and expanded to themselves
(`applyLine_written`). Each line sets one thing, so the order of the lines does not matter, and what
is set is exactly what can be read (`parse_write`).
-/
namespace ShellWords

/-! ### Quoted words in one line -/

namespace Text

private theorem isOneLine_quote {word : Text} (line : word.IsOneLine) : word.quote.IsOneLine := by
  have quoteMark : IsOneLine ['\''] := by decide
  rw [quote]
  split
  · exact isOneLine_append_iff.mpr ⟨quoteMark, quoteMark⟩
  · split
    · exact line
    · have quoted : IsOneLine (word.flatMap quoteChar) := by
        intro c member
        obtain ⟨d, inWord, inQuoted⟩ := List.mem_flatMap.mp member
        unfold quoteChar at inQuoted
        split at inQuoted
        -- A spliced quote is made of quotes.
        · have splice : IsOneLine ['\'', '"', '\'', '"', '\''] := by decide
          exact splice c inQuoted
        · obtain rfl := List.mem_singleton.mp inQuoted
          exact line c inWord
      exact List.forall_mem_cons.mpr ⟨rfl, isOneLine_append_iff.mpr ⟨quoted, quoteMark⟩⟩

private theorem isOneLine_joinQuoted {words : List Text}
    (oneLine : ∀ word ∈ words, word.IsOneLine) :
    (joinQuoted words).IsOneLine := by
  refine isOneLine_intercalate (List.forall_mem_singleton.mpr rfl) fun part listed => ?_
  obtain ⟨word, member, rfl⟩ := List.mem_map.mp listed
  exact isOneLine_quote (oneLine word member)

end Text

/-! ### Names -/

/-- Each spelling of a name is read as that name. -/
private theorem Setting.ofName?_lowercase {setting : Setting} {name : Text}
    (spelled : name ∈ setting.spellings) : ofName? (Text.lowercase name) = some setting := by
  cases setting <;> simp only [spellings, List.mem_cons, List.not_mem_nil, or_false] at spelled <;>
    rcases spelled with rfl | rfl <;> rfl

private theorem Setting.isOneLine_of_mem_spellings {setting : Setting} {name : Text}
    (spelled : name ∈ setting.spellings) : name.IsOneLine := by
  have plain : ∀ name ∈ setting.spellings, name.IsOneLine := by
    cases setting <;> decide
  exact plain name spelled

namespace Settings

/-- What some text sets. -/
structure IsExpressible (s : Settings) : Prop where
  commentChars : ∀ t ∈ s.commentChars, t.IsOneLine
  escapeChars : ∀ t ∈ s.escapeChars, t.IsOneLine
  log : ∀ p ∈ s.log, p.IsExpressible
  localeDir : ∀ p ∈ s.localeDir, p.IsExpressible
  source : s.source = none

/-! ### What is read is expressible -/

section Reading

variable {homes : Homes} (proper : homes.AreProper)

include proper

/-- What a path is read for gets an expressible one. -/
private theorem exists_isExpressible_of_pathOf {value : Text} (line : value.IsOneLine)
    {set : Path → Settings} {s' : Settings} (assigned : (pathOf homes value).map set = .ok s') :
    ∃ p : Path, p.IsExpressible ∧ s' = set p := by
  unfold pathOf at assigned
  cases expanded : (Path.ofText value).expandHome homes with
  | error e => rw [expanded] at assigned; cases assigned
  | ok p =>
    rw [expanded] at assigned
    cases assigned
    exact ⟨p, Path.isExpressible_of_expandHome proper line expanded, rfl⟩

private theorem isExpressible_assign {s s' : Settings} {key : Text} {value : Option Text}
    (expressible : s.IsExpressible) (line : ∀ t ∈ value, t.IsOneLine)
    (assigned : assign homes s key value = .ok s') : s'.IsExpressible := by
  unfold assign at assigned
  -- An assignment that succeeds sets a flag, keeps its value as it is, or reads a path.
  split at assigned <;> try cases assigned
  · exact { expressible with }
  · exact { expressible with }
  · exact { expressible with commentChars := fun _ same => line _ same }
  · exact { expressible with escapeChars := fun _ same => line _ same }
  · obtain ⟨p, path, rfl⟩ :=
      exists_isExpressible_of_pathOf proper (line _ rfl) assigned
    exact { expressible with log := fun _ same => Option.some.inj same ▸ path }
  · obtain ⟨p, path, rfl⟩ :=
      exists_isExpressible_of_pathOf proper (line _ rfl) assigned
    exact { expressible with localeDir := fun _ same => Option.some.inj same ▸ path }

private theorem isExpressible_applyLine {s s' : Settings} {line : Text}
    (expressible : s.IsExpressible)
    (plain : line.IsOneLine) (applied : applyLine homes s line = .ok s') : s'.IsExpressible := by
  unfold applyLine at applied
  split at applied
  · next words read =>
    have oneLine : ∀ word ∈ words, word.IsOneLine :=
      fun word listed c member => plain c (Text.mem_of_mem_split read listed member)
    unfold applyWords at applied
    split at applied
    · cases applied
      exact expressible
    · split at applied
      · cases applied
      · split at applied
        · cases applied
        · exact isExpressible_assign proper expressible (by simp) applied
        · next value =>
          have valueLine : value.IsOneLine := oneLine value (by simp)
          exact isExpressible_assign proper expressible
            (fun t same => Option.some.inj same ▸ valueLine) applied
        · cases applied
  · cases applied

private theorem isExpressible_applyLines {s s' : Settings} {number : Nat} {lines : List Text}
    (expressible : s.IsExpressible) (oneLine : ∀ line ∈ lines, line.IsOneLine)
    (applied : applyLines homes s number lines = .ok s') : s'.IsExpressible := by
  induction lines generalizing s number with
  | nil =>
    cases applied
    exact expressible
  | cons line lines ih =>
    rw [applyLines] at applied
    obtain ⟨first, others⟩ := List.forall_mem_cons.mp oneLine
    split at applied
    · next later appliedFirst =>
      exact ih (isExpressible_applyLine proper expressible first appliedFirst) others
        applied
    · cases applied

theorem isExpressible_parse {t : Text} {s : Settings} (parsed : parse homes t = .ok s) :
    s.IsExpressible := by
  have unset : IsExpressible {} := ⟨nofun, nofun, nofun, nofun, rfl⟩
  exact isExpressible_applyLines proper unset
    (fun _ listed => Text.isOneLine_of_mem_splitLines listed) parsed

end Reading

/-! ### What is expressible is read back -/

/-- As the settings, but only with the listed ones. -/
def restrict (s : Settings) (chosen : List Setting) : Settings where
  log := if .log ∈ chosen then s.log else none
  logFull := decide (.logFull ∈ chosen) && s.logFull
  verbose := decide (.verbose ∈ chosen) && s.verbose
  commentChars := if .commentChars ∈ chosen then s.commentChars else none
  escapeChars := if .escapeChars ∈ chosen then s.escapeChars else none
  localeDir := if .localeDir ∈ chosen then s.localeDir else none

private theorem restrict_nil (s : Settings) : s.restrict [] = {} := by
  simp [restrict]

private theorem merge_restrict_cons (s : Settings) (setting : Setting) (others : List Setting) :
    (s.restrict [setting]).merge (s.restrict others) = s.restrict (setting :: others) := by
  have value {α : Type} (name : Setting) (x : Option α) :
      ((if name ∈ others then x else none) <|> if name ∈ [setting] then x else none) =
        if name ∈ setting :: others then x else none := by
    by_cases same : name = setting
    · subst same
      cases x <;> by_cases listed : name ∈ others <;> simp [listed]
    · simp [same]
  have flag (name : Setting) (x : Bool) :
      ((decide (name ∈ others) && x) || (decide (name ∈ [setting]) && x)) =
        (decide (name ∈ setting :: others) && x) := by
    by_cases listed : name ∈ others <;> by_cases same : name = setting <;> simp [listed, same]
  simp only [merge, restrict, value, flag]
  rfl

variable {spelling : Setting → Text}

private theorem restrict_of_unset {s : Settings} {setting : Setting}
    (unset : s.assignment? spelling setting = none) : s.restrict [setting] = {} := by
  cases setting <;> simp_all [assignment?, restrict]

private theorem restrict_of_complete {s : Settings} {order : List Setting}
    (unnamed : s.source = none)
    (complete : ∀ setting, (s.assignment? spelling setting).isSome → setting ∈ order) :
    s.restrict order = s := by
  have value {α : Type} (name : Setting) (x : Option α) (needed : x.isSome → name ∈ order) :
      (if name ∈ order then x else none) = x := by
    cases x <;> simp_all
  have flag (name : Setting) (x : Bool) (needed : x → name ∈ order) :
      (decide (name ∈ order) && x) = x := by
    cases x <;> simp_all
  obtain ⟨log, logFull, verbose, commentChars, escapeChars, localeDir, source⟩ := s
  obtain rfl : source = none := unnamed
  simp only [restrict, Settings.mk.injEq, and_true]
  refine ⟨value _ _ fun set => complete .log ?_, flag _ _ fun set => complete .logFull ?_,
    flag _ _ fun set => complete .verbose ?_, value _ _ fun set => complete .commentChars ?_,
    value _ _ fun set => complete .escapeChars ?_, value _ _ fun set => complete .localeDir ?_⟩ <;>
    simp [assignment?, set]

section Writing

variable (homes : Homes) {s : Settings}

private theorem pathOf_text {p : Path} (expressible : p.IsExpressible) :
    pathOf homes p.text = .ok p := by
  rw [pathOf, Path.expandHome_ofText_text homes expressible]
  rfl

/-- The line for what is set gives it its value, in one line, or sets it without one. -/
private theorem assign_of_assignment? (expressible : s.IsExpressible) {setting : Setting}
    {words : List Text} (assigned : s.assignment? spelling setting = some words) :
    ∃ value : Option Text, words = "set".toList :: spelling setting :: value.toList ∧
      (∀ t ∈ value, t.IsOneLine) ∧
      ∀ base key, Setting.ofName? key = some setting →
        assign homes base key value = .ok (base.merge (s.restrict [setting])) := by
  cases setting with
  | log | localeDir =>
    obtain ⟨p, set, rfl⟩ := Option.map_eq_some_iff.mp assigned
    have path : p.IsExpressible := by
      first
      | exact expressible.log p set
      | exact expressible.localeDir p set
    refine ⟨some p.text, rfl, ?_, fun base key named => ?_⟩
    · simpa using Path.isOneLine_text path.oneLine
    · simp [assign, named, pathOf_text homes path, Except.map, merge, restrict, set]
  | commentChars | escapeChars =>
    obtain ⟨t, set, rfl⟩ := Option.map_eq_some_iff.mp assigned
    have line : t.IsOneLine := by
      first
      | exact expressible.commentChars t set
      | exact expressible.escapeChars t set
    refine ⟨some t, rfl, by simpa using line, fun base key named => ?_⟩
    simp [assign, named, merge, restrict, set]
  | logFull | verbose =>
    obtain ⟨set, same⟩ := Option.ite_none_right_eq_some.mp assigned
    obtain rfl := Option.some.inj same
    refine ⟨none, rfl, by simp, fun base key named => ?_⟩
    simp [assign, named, merge, restrict, set]

private theorem applyWords_set (base : Settings) (name : Text) (value : Option Text) :
    applyWords homes base ("set".toList :: name :: value.toList) =
      assign homes base (Text.lowercase name) value := by
  have directive : Text.lowercase "set" = "set".toList := rfl
  unfold applyWords
  dsimp only
  rw [if_neg fun different => different directive]
  cases value <;> rfl

variable (spelled : ∀ setting, spelling setting ∈ setting.spellings)

include spelled

/-- A written line is one line, and sets what it is for. -/
theorem applyLine_written (expressible : s.IsExpressible) (base : Settings) {setting : Setting}
    {words : List Text} (assigned : s.assignment? spelling setting = some words) :
    applyLine homes base (Text.joinQuoted words) = .ok (base.merge (s.restrict [setting])) ∧
    (Text.joinQuoted words).IsOneLine ∧ Text.joinQuoted words ≠ [] := by
  obtain ⟨value, rfl, line, sets⟩ := assign_of_assignment? homes expressible assigned
  have directiveLine : Text.IsOneLine "set" := by decide
  have named := Setting.ofName?_lowercase (spelled setting)
  refine ⟨?_, Text.isOneLine_joinQuoted ?_, ?_⟩
  · rw [applyLine, Text.split_joinQuoted_standard]
    exact (applyWords_set homes base (spelling setting) value).trans (sets base _ named)
  · refine List.forall_mem_cons.mpr ⟨directiveLine, List.forall_mem_cons.mpr ⟨?_, ?_⟩⟩
    · exact Setting.isOneLine_of_mem_spellings (spelled setting)
    · simpa using line
  · simp [Text.joinQuoted]

theorem applyLines_written (expressible : s.IsExpressible) (base : Settings) (number : Nat)
    (order : List Setting) :
    applyLines homes base number
        ((order.filterMap (s.assignment? spelling)).map Text.joinQuoted) =
      .ok (base.merge (s.restrict order)) := by
  induction order generalizing base number with
  | nil => rw [restrict_nil, merge_empty]; rfl
  | cons setting order ih =>
    rw [← merge_restrict_cons, ← merge_assoc]
    cases assigned : s.assignment? spelling setting with
    | none =>
      rw [List.filterMap_cons_none assigned, restrict_of_unset assigned, merge_empty]
      exact ih base number
    | some words =>
      rw [List.filterMap_cons_some assigned, List.map_cons, applyLines,
        (applyLine_written homes spelled expressible base assigned).1]
      exact ih _ _

/-- Expressible settings are read back from the lines that set them, in whatever order. -/
theorem parse_write_of_isExpressible (expressible : s.IsExpressible) {order : List Setting}
    (complete : ∀ setting, (s.assignment? spelling setting).isSome → setting ∈ order) :
    parse homes (s.write spelling order) = .ok s := by
  have lines : ∀ line ∈ (order.filterMap (s.assignment? spelling)).map Text.joinQuoted,
      line.IsOneLine ∧ line ≠ [] := by
    intro line listed
    obtain ⟨words, among, rfl⟩ := List.mem_map.mp listed
    obtain ⟨setting, -, assigned⟩ := List.mem_filterMap.mp among
    exact (applyLine_written homes spelled expressible {} assigned).2
  rw [parse, write, Text.splitLines_intercalate lines,
    applyLines_written homes spelled expressible, empty_merge,
    restrict_of_complete expressible.source complete]

end Writing

/-- What a text can set is what is expressible, and it is set again by the lines that are written
for it, in any order and with either spelling of each name. -/
theorem parse_write (homes : Homes) (proper : homes.AreProper) :
    (∀ s, (∃ t, parse homes t = .ok s) ↔ s.IsExpressible) ∧
    ∀ t s, parse homes t = .ok s → ∀ spelling order,
      (∀ setting, spelling setting ∈ setting.spellings) →
      (∀ setting, (s.assignment? spelling setting).isSome → setting ∈ order) →
      parse homes (s.write spelling order) = .ok s := by
  refine ⟨fun s => ⟨?_, fun expressible => ?_⟩, ?_⟩
  · rintro ⟨t, parsed⟩
    exact isExpressible_parse proper parsed
  · have spelled : ∀ setting : Setting, setting.name ∈ setting.spellings :=
      fun setting => List.mem_cons_self
    have complete : ∀ setting, setting ∈ Setting.all := fun setting => by cases setting <;> decide
    exact ⟨_, parse_write_of_isExpressible homes spelled expressible fun setting _ =>
      complete setting⟩
  · intro t s parsed spelling order spelled complete
    exact parse_write_of_isExpressible homes spelled (isExpressible_parse proper parsed) complete

/-- Two paths that begin with tildes, one with a doubled slash and a dot and one with the name of
another user, and characters that are set to none. -/
theorem parse_write_tilde :
    let homes : Homes :=
      ⟨some "/home/u", none, fun user => if user = ['v'] then some "/v" else none⟩
    let t : Text := "set log '~//a b/.'\nset escape-chars ''\nset locale_dir ~v/l"
    let s : Settings :=
      { log := some ⟨.root, ["home", "u", "a b"]⟩, escapeChars := some []
        localeDir := some ⟨.root, ["v", "l"]⟩ }
    let order : List Setting := [.localeDir, .escapeChars, .log]
    homes.AreProper ∧ parse homes t = .ok s ∧
    s.write Setting.name order =
      "set locale-dir /v/l\nset escape-chars ''\nset log '/home/u/a b'".toList ∧
    parse homes (s.write Setting.name order) = .ok s := by
  intro homes t s order
  have parsed : parse homes t = .ok s := by
    decide +kernel
  have proper : homes.AreProper := by
    intro user home known
    -- There are two homes, and who has none is not known.
    rw [Homes.find] at known
    split at known
    · cases known
    · split at known
      · next given =>
        cases known
        split at given
        · cases given
          exact ⟨rfl, by decide⟩
        · obtain ⟨-, same⟩ := Option.ite_none_right_eq_some.mp given
          cases same
          exact ⟨rfl, by decide⟩
      · cases known
  have spelled : ∀ setting : Setting, setting.name ∈ setting.spellings := by
    intro setting
    exact List.mem_cons_self
  have complete : ∀ setting, (s.assignment? Setting.name setting).isSome → setting ∈ order := by
    intro setting
    cases setting <;> decide
  exact ⟨proper, parsed, rfl,
    (parse_write homes proper).2 t s parsed Setting.name order spelled complete⟩

end Settings

end ShellWords
