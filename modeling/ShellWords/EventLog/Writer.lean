import ShellWords.Json

/-!
The library that writes events. It is known by what its documentation says: which events a logger
lets pass, and that a line is a JSON object with the fields of the event, its name, level and time.
-/
namespace ShellWords

inductive Level
  | debug
  | info
  | warning
  | error
  | critical
  deriving DecidableEq, Repr

namespace Level

def name : Level → Text
  | debug => "debug"
  | info => "info"
  | warning => "warning"
  | error => "error"
  | critical => "critical"

def severity : Level → Nat
  | debug => 10
  | info => 20
  | warning => 30
  | error => 40
  | critical => 50

end Level

/-- A library that writes events. -/
structure LogWriter where
  /-- Whether a logger with a least level lets an event of some level pass. -/
  passes : Level → Level → Bool
  /-- The line for an event, by time, level, name and fields. -/
  line : Text → Level → Text → List (Text × Json) → Text

namespace LogWriter

/-- What the members of a line tell. Name, time and level take the place of fields of these
names. -/
structure Tells (now : Text) (level : Level) (name : Text) (fields members : List (Text × Json)) :
    Prop where
  name : members.lookup ("event" : Text) = some (.str name)
  time : members.lookup ("ts" : Text) = some (.str now)
  level : members.lookup ("level" : Text) = some (.str level.name)
  others : ∀ other, other ∉ (["event", "ts", "level"] : List Text) →
    members.lookup other = fields.lookup other

def timeMember (now : Text) : Text × Json := ("ts", .str now)

/-- The library does what is documented. Only one member of a line depends on the time. -/
structure Documented (writer : LogWriter) : Prop where
  passes_iff : ∀ least level, writer.passes least level ↔ least.severity ≤ level.severity
  exists_members : ∀ level name fields, ∃ before after : List (Text × Json), ∀ now,
    Tells now level name fields (before ++ timeMember now :: after) ∧
      writer.line now level name fields =
        (Json.obj (before ++ timeMember now :: after)).render ++ ['\n']

/-- Gives the members their values one by one. One that is there already keeps its place. -/
def standard : LogWriter where
  passes least level := least.severity ≤ level.severity
  line now level name fields :=
    let named := Json.set fields "event" (.str name)
    let members := Json.set (Json.set named "ts" (.str now)) "level" (.str level.name)
    (Json.obj members).render ++ ['\n']

end LogWriter

end ShellWords
