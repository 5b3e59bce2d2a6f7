import ShellWords.Catalog.LocaleNames
import ShellWords.Text.Charset

/-!
Which catalogs serve a language. A locale name is first completed: what the table of names knows is
replaced by the full name, with a codeset or modifier that was asked for kept in the spelling of
locale names. The full name is then shortened step by step, modifier, territory and codeset in turn.
-/
namespace ShellWords.Locale

def fullName? (name : Text) : Option Text :=
  (fullNames.lookup (String.ofList name)).map String.toList

/-- The spelling of a codeset in locale names. -/
def codeset (name : Text) : Text :=
  let plain := Charset.plain name
  let known := (Charset.standardName? (Text.lowercase plain)).getD plain
  let look (key : Text) : Option Text := (codesets.lookup (String.ofList key)).map String.toList
  let key := Text.lowercase known
  ((look key).orElse fun _ => look (key.filter fun c => c ≠ '_' ∧ c ≠ '-')).getD known

def withCodeset (name requested : Text) : Text :=
  (name.takeWhile (· ≠ '.')) ++ '.' :: codeset requested

/-- The modifier for the euro sign asks for a codeset that has one. -/
def withModifier (name modifier : Text) : Text :=
  if modifier = "euro".toList then
    match Text.cut '.' name with
    | (_, none) => name ++ ".ISO8859-15"
    | (_, some set) =>
      if set = "ISO8859-15".toList ∨ set = "UTF-8".toList then name
      else if set = "ISO8859-1".toList then withCodeset name "ISO8859-15"
      else name ++ '@' :: modifier
  else name ++ '@' :: modifier

/-- A locale name as it is asked for, in lower case. -/
structure Request where
  language : Text
  codeset : Text
  modifier : Text

def Request.ofName (name : Text) : Request :=
  let code := (Text.lowercase name).map fun c => if c = ':' then '.' else c
  let (code, modifier) := Text.cut '@' code
  let (language, set) := Text.cut '.' code
  ⟨language, (set.getD []).takeWhile (· ≠ '.'), modifier.getD []⟩

def marked (mark : Char) (part : Text) : Text := if part.isEmpty then [] else mark :: part

/-- The full name that the table has for the request, more and more of which is set aside. -/
def Request.complete? (r : Request) : Option Text :=
  let set := marked '.' (r.codeset.filter fun c => c ≠ '-' ∧ c ≠ '_')
  let modifier := marked '@' r.modifier
  let whole := fullName? (r.language ++ set ++ modifier)
  let plain := do
    guard (r.modifier ≠ [])
    let full ← fullName? (r.language ++ set)
    match Text.cut '@' full with
    | (_, none) => some (withModifier full r.modifier)
    | (_, some own) => if Text.lowercase own = r.modifier then some full else none
  let recoded := do
    guard (r.codeset ≠ [])
    let full ← fullName? (r.language ++ modifier)
    match Text.cut '@' full with
    | (_, none) => some (withCodeset full r.codeset)
    | (base, some own) => some (withCodeset base r.codeset ++ '@' :: own)
  let bare := do
    guard (r.codeset ≠ [] ∧ r.modifier ≠ [])
    let full ← fullName? r.language
    match Text.cut '@' full with
    | (_, none) => some (withModifier (withCodeset full r.codeset) r.modifier)
    | (base, some own) =>
      if Text.lowercase own = r.modifier then some (withCodeset base r.codeset ++ '@' :: own)
      else none
  whole <|> plain <|> recoded <|> bare

def complete (name : Text) : Text := (Request.ofName name).complete?.getD name

/-- A part of a name from its mark on, and what stands before it. -/
def cutPart (mark : Char) (name : Text) : Text × Option Text :=
  let (before, after) := Text.cut mark name
  (before, after.map (mark :: ·))

/-- A part is kept first and dropped then. -/
def choices (part : Option Text) : List Text := (part.map fun t => [t, []]).getD [[]]

/-- The names to look for, from the most to the least particular. -/
def expand (name : Text) : List Text :=
  let (rest, modifier) := cutPart '@' (complete name)
  let (rest, set) := cutPart '.' rest
  let (language, territory) := cutPart '_' rest
  (choices modifier).flatMap fun m =>
    (choices territory).flatMap fun t =>
      (choices set).map fun s => language ++ t ++ s ++ m

/-- The variables that name languages, the ones that count most first. -/
def variableNames : List Text := ["LANGUAGE", "LC_ALL", "LC_MESSAGES", "LANG"]

/-- The languages that the environment asks for; the plain one comes last at the latest. -/
def languages (value? : Text → Option Text) : List Text :=
  let asked := match (variableNames.filterMap value?).find? (· ≠ []) with
    | some value => value.splitOn ':'
    | none => []
  if asked.contains ['C'] then asked else asked ++ [['C']]

/-- The names to look for, each once, up to the plain one, which needs no catalog. -/
def wanted (languages : List Text) : List Text :=
  (languages.flatMap expand).eraseDups.takeWhile (· ≠ ['C'])

end ShellWords.Locale
