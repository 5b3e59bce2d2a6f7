import ShellWords.Text.Basic

/-!
Characters from bytes. UTF-8 is decoded one byte at a time: between two bytes the decoder holds
the bytes of a character that has started and not ended, so a stream may be cut anywhere. A byte
that cannot follow is an error at once, except that the first two bytes of a surrogate are held like
those of a character and refused with the byte after them. Bytes that are still held when the data
ends are an error then.
-/
namespace ShellWords

/-- Why bytes are no text. -/
inductive DecodeFault
  | invalidStart
  | invalidContinuation
  | truncated
  | notAscii
  deriving DecidableEq, Repr

/-- The run of bytes that stands for no character, and where it starts. -/
structure DecodeError where
  fault : DecodeFault
  offset : Nat
  run : Bytes
  deriving DecidableEq, Repr

namespace DecodeFault

def charset : DecodeFault → Text
  | notAscii => "ascii"
  | _ => "utf-8"

def reason : DecodeFault → Text
  | invalidStart => "invalid start byte"
  | invalidContinuation => "invalid continuation byte"
  | truncated => "unexpected end of data"
  | notAscii => "ordinal not in range(128)"

end DecodeFault

/-- A run of one byte is named by its value, a longer one by its extent. -/
def DecodeError.message (e : DecodeError) : Text :=
  let place : Text := match e.run with
    | [byte] => "byte 0x" ++ Text.hex 2 byte.toNat ++ " in position " ++ Text.ofNat e.offset
    | run => "bytes in position " ++ Text.ofNat e.offset ++ "-"
        ++ Text.ofNat (e.offset + run.length - 1)
  "'" ++ e.fault.charset ++ "' codec can't decode " ++ place ++ ": " ++ e.fault.reason

namespace Utf8

/-- How many bytes a character has whose first byte is this one; zero if there is none. -/
def width (lead : UInt8) : Nat :=
  if lead < 0x80 then 1
  else if lead < 0xC2 then 0
  else if lead < 0xE0 then 2
  else if lead < 0xF0 then 3
  else if lead < 0xF5 then 4
  else 0

/-- The bytes that may come next. Four first bytes restrict the second one: without this, overlong
forms, surrogates and numbers past the last character would be let through. -/
def continues : Bytes → UInt8 → Bool
  | [0xE0], b => 0xA0 ≤ b && b ≤ 0xBF
  | [0xED], b => 0x80 ≤ b && b ≤ 0x9F
  | [0xF0], b => 0x90 ≤ b && b ≤ 0xBF
  | [0xF4], b => 0x80 ≤ b && b ≤ 0x8F
  | _, b => 0x80 ≤ b && b ≤ 0xBF

/-- The character of a whole byte sequence: the first byte gives its low bits, each other one
six. -/
def assemble : Bytes → Char
  | [] => '\x00'
  | lead :: others =>
    let low := match others.length with
      | 0 => lead.toNat
      | 1 => lead.toNat % 0x20
      | 2 => lead.toNat % 0x10
      | _ => lead.toNat % 0x08
    Char.ofNat (others.foldl (fun code b => code * 0x40 + b.toNat % 0x40) low)

/-- Two bytes with which only a surrogate could begin. -/
def startsSurrogate : Bytes → Bool
  | [0xED, b] => 0xA0 ≤ b && b ≤ 0xBF
  | _ => false

inductive Fed
  | char (c : Char)
  | held (bytes : Bytes)
  | refused (fault : DecodeFault) (run : Bytes)

/-- One more byte after those held. -/
def feed : Bytes → UInt8 → Fed
  | [], b =>
    match width b with
    | 0 => .refused .invalidStart [b]
    | 1 => .char (assemble [b])
    | _ => .held [b]
  | lead :: others, b =>
    let bytes := lead :: (others ++ [b])
    -- A surrogate is held although its second byte cannot follow, and refused with the third.
    if startsSurrogate (lead :: others) then .refused .invalidContinuation [lead]
    else if startsSurrogate bytes then .held bytes
    else if continues (lead :: others) b then
      if bytes.length = width lead then .char (assemble bytes) else .held bytes
    else .refused .invalidContinuation (lead :: others)

/-- Decodes as far as whole characters go and returns what is held then. The offset is that of the
first byte held. -/
def decodeFrom (offset : Nat) (held : Bytes) : Bytes → Except DecodeError (Text × Bytes)
  | [] => .ok ([], held)
  | b :: rest =>
    match feed held b with
    | .char c =>
      match decodeFrom (offset + held.length + 1) [] rest with
      | .ok (t, left) => .ok (c :: t, left)
      | .error e => .error e
    | .held bytes => decodeFrom offset bytes rest
    | .refused fault run => .error ⟨fault, offset, run⟩

/-- One chunk of a stream. Offsets count from the first byte held. -/
def decodeChunk (held chunk : Bytes) : Except DecodeError (Text × Bytes) :=
  decodeFrom 0 held chunk

/-- The end of the data: no byte may be held. The offset is that of the first byte held. -/
def decodeEnd (offset : Nat) : Bytes → Except DecodeError Unit
  | [] => .ok ()
  | lead :: others =>
    if startsSurrogate (lead :: others) then .error ⟨.invalidContinuation, offset, [lead]⟩
    else .error ⟨.truncated, offset, lead :: others⟩

def decode (bytes : Bytes) : Except DecodeError Text :=
  match decodeFrom 0 [] bytes with
  | .ok (t, left) => (decodeEnd (bytes.length - left.length) left).map fun _ => t
  | .error e => .error e

def encode (t : Text) : Bytes := t.flatMap String.utf8EncodeChar

end Utf8

/-- Each byte is the character of its number. -/
def decodeLatin1 (bytes : Bytes) : Text := bytes.map fun b => Char.ofNat b.toNat

def decodeAsciiFrom (offset : Nat) : Bytes → Except DecodeError Text
  | [] => .ok []
  | b :: rest =>
    if b < 0x80 then
      match decodeAsciiFrom (offset + 1) rest with
      | .ok t => .ok (Char.ofNat b.toNat :: t)
      | .error e => .error e
    else .error ⟨.notAscii, offset, [b]⟩

def decodeAscii (bytes : Bytes) : Except DecodeError Text := decodeAsciiFrom 0 bytes

end ShellWords
