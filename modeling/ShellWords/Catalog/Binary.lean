import ShellWords.Catalog.Basic
import ShellWords.Text.Blank
import ShellWords.Text.Charset

/-!
Catalogs in binary form. The file begins with five words of four bytes whose order the first one
tells: mark, version, number of entries, and where the tables of messages and of wordings
begin. A table entry is the length and the place of a text. The wording of the empty message
holds header lines, which name the character set and the plural rule.
-/
namespace ShellWords

/-- Why bytes are no catalog. -/
inductive CatalogFault
  | tooShort (needed : Nat)
  | wrongMark
  | wrongVersion (major : Nat)
  | corrupt
  | headerIncomplete
  | undecodable (e : DecodeError)
  /-- A decoder fails, or there is none. -/
  | foreign (e : ForeignError)
  | tooManyParts
  | plural (e : PluralError)
  deriving DecidableEq, Repr

namespace Catalog

inductive ByteOrder
  | littleEndian
  | bigEndian
  deriving DecidableEq, Repr

namespace ByteOrder

/-- The number that bytes stand for. -/
def number (order : ByteOrder) (bytes : Bytes) : Nat :=
  let first := match order with
    | littleEndian => bytes.reverse
    | bigEndian => bytes
  first.foldl (fun n b => n * 0x100 + b.toNat) 0

end ByteOrder

/-- The mark at the beginning of a file. -/
def mark : Nat := 0x950412DE

/-- A stretch of the file, as far as the file reaches. -/
def slice (file : Bytes) (start length : Nat) : Bytes := (file.drop start).take length

/-- Some words of four bytes, all of which must be there. -/
def words (order : ByteOrder) (file : Bytes) (start count : Nat) :
    Except CatalogFault (List Nat) :=
  if (slice file start (4 * count)).length < 4 * count then .error (.tooShort (4 * count))
  else .ok ((List.range count).map fun i => order.number (slice file (start + 4 * i) 4))

/-- The text that an entry of a table points to. It must end before the file does. -/
def entryBytes (order : ByteOrder) (file : Bytes) (table : Nat) :
    Except CatalogFault (Bytes × Bool) := do
  match ← words order file table 2 with
  | [length, start] => .ok (slice file start length, start + length < file.length)
  | _ => .error (.tooShort 8)

/-- What header lines have told so far. -/
structure Header where
  charset : Text := []
  plural : PluralRule := .standard

/-- The value of a named part, which ends where the name occurs again. -/
def valueAfter (name value : Text) : Except CatalogFault Text :=
  match Text.after? name value with
  | none => .error .headerIncomplete
  | some rest => .ok (Text.before name rest)

def isDivider (line : Text) : Bool :=
  let rule : Text := "#-#-#-#-#"
  rule.isPrefixOf line && rule.isSuffixOf line

def Header.read (h : Header) (lineBytes : Bytes) : Except CatalogFault Header := do
  let line ← (Utf8.decode lineBytes).mapError .undecodable
  let line := Text.trim line
  if isDivider line then return h
  match Text.cut ':' line with
  | (_, none) => return h
  | (key, some value) =>
    let key := Text.lowercase (Text.trim key)
    let value := Text.trim value
    if key = "content-type".toList then
      return { h with charset := ← valueAfter "charset=" value }
    else if key = "plural-forms".toList then
      match value.splitOn ';' with
      | _ :: part :: _ =>
        let text ← valueAfter "plural=" part
        return { h with plural := ← (PluralRule.parse text).mapError .plural }
      | _ => .error .headerIncomplete
    else return h

def Header.readAll (h : Header) (text : Bytes) : Except CatalogFault Header :=
  (text.splitOn 0x0A).foldlM Header.read h

/-- Text in the character set of the header, which is ASCII where it names none. -/
def Header.decode (codecs : Codecs) (h : Header) (bytes : Bytes) : Except CatalogFault Text :=
  let charset := if h.charset.isEmpty then "ascii".toList else h.charset
  (codecs.decode charset bytes).mapError .foreign

/-- The forms of a counted message. -/
def forms (codecs : Codecs) (h : Header) (id : Text) :
    Nat → List Bytes → Except CatalogFault (List (CatalogKey × Text))
  | _, [] => .ok []
  | index, bytes :: others => do
    let t ← h.decode codecs bytes
    let more ← forms codecs h id (index + 1) others
    return (.form id index, t) :: more

/-- The entries for a message and its wording. A zero byte in the message separates the
singular of a counted message from its plural. -/
def entriesOf (codecs : Codecs) (h : Header) (message wording : Bytes) :
    Except CatalogFault (List (CatalogKey × Text)) :=
  match message.splitOn 0 with
  | [_] => do
    let t ← h.decode codecs wording
    return [(.message (← h.decode codecs message), t)]
  | [singular, _] => do forms codecs h (← h.decode codecs singular) 0 (wording.splitOn 0)
  | _ => .error .tooManyParts

/-- Reads entries from the two tables on, as many as there are. -/
def readEntries (codecs : Codecs) (order : ByteOrder) (file : Bytes) (h : Header)
    (read : List (CatalogKey × Text)) : Nat → Nat → Nat → Except CatalogFault Catalog
  | 0, _, _ => .ok ⟨read, h.plural⟩
  | count + 1, messages, wordings => do
    let (message, messageFits) ← entryBytes order file messages
    let (wording, wordingFits) ← entryBytes order file wordings
    if !(messageFits && wordingFits) then .error .corrupt
    else
      -- A header counts from its own entry on.
      let h ← if message.isEmpty then h.readAll wording else .ok h
      let entries ← entriesOf codecs h message wording
      readEntries codecs order file h (entries.reverse ++ read) count (messages + 8) (wordings + 8)

/-- The byte order in which the mark reads as it should. -/
def byteOrder (file : Bytes) : Except CatalogFault ByteOrder := do
  let first ← words .littleEndian file 0 1
  if first = [mark] then .ok .littleEndian
  else if ByteOrder.number .bigEndian (slice file 0 4) = mark then .ok .bigEndian
  else .error .wrongMark

def ofBytes (codecs : Codecs) (file : Bytes) : Except CatalogFault Catalog := do
  let order ← byteOrder file
  match ← words order file 4 4 with
  | [version, count, messages, wordings] =>
    if 1 < version / 0x10000 then .error (.wrongVersion (version / 0x10000))
    else readEntries codecs order file {} [] count messages wordings
  | _ => .error (.tooShort 16)

end Catalog

end ShellWords
