import ShellWords.Text.Basic

/-!
JSON values and their written form: one line of printable ASCII, members in the order given, a
blank after each comma and colon. A character past ASCII is written by its UTF-16 units.
-/
namespace ShellWords

inductive Json
  | null
  | bool (value : Bool)
  | int (value : Int)
  | str (value : Text)
  | arr (items : List Json)
  | obj (members : List (Text × Json))
  deriving Inhabited

namespace Json

/-- A unit of UTF-16 as an escape. -/
def unit (n : Nat) : Text := "\\u" ++ Text.hex 4 n

def escape (c : Char) : Text :=
  if c = '"' then "\\\""
  else if c = '\\' then "\\\\"
  else if c = '\n' then "\\n"
  else if c = '\r' then "\\r"
  else if c = '\t' then "\\t"
  else if c = '\x08' then "\\b"
  else if c = '\x0C' then "\\f"
  else if 0x20 ≤ c.toNat && c.toNat < 0x7F then [c]
  else if c.toNat < 0x10000 then unit c.toNat
  else
    let above := c.toNat - 0x10000
    unit (0xD800 + above / 0x400) ++ unit (0xDC00 + above % 0x400)

def quoted (t : Text) : Text := '"' :: (t.flatMap escape ++ ['"'])

mutual

def render : Json → Text
  | null => "null"
  | bool true => "true"
  | bool false => "false"
  | int n => Text.ofInt n
  | str t => quoted t
  | arr items => '[' :: (renderItems items ++ [']'])
  | obj members => '{' :: (renderMembers members ++ ['}'])

def renderItems : List Json → Text
  | [] => []
  | [item] => render item
  | item :: items => render item ++ ", " ++ renderItems items

def renderMembers : List (Text × Json) → Text
  | [] => []
  | [member] => renderMember member
  | member :: members => renderMember member ++ ", " ++ renderMembers members

def renderMember : Text × Json → Text
  | (name, value) => quoted name ++ ": " ++ render value

end

/-- Gives a member a value: in its place if there is one of that name, else at the end. -/
def set (members : List (Text × Json)) (name : Text) (value : Json) : List (Text × Json) :=
  match members with
  | [] => [(name, value)]
  | member :: others =>
    if member.1 = name then (name, value) :: others else member :: set others name value

end Json

end ShellWords
