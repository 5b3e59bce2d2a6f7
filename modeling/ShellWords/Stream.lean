import ShellWords.Text.Decoding

/-!
Streams. A stream is the finite list of what its reads will hand out, followed without end by an
empty chunk. A text is a stream of single characters, a byte string one of single bytes.
-/
namespace ShellWords

/-- An error of the stream itself, passed on as it is. -/
structure StreamFailure where
  kind : Text
  message : Text
  deriving DecidableEq, Repr

/-- What one read hands out. -/
inductive Delivery
  | text (chunk : Text)
  | bytes (chunk : Bytes)
  | nothing
  | failure (f : StreamFailure)
  deriving DecidableEq, Repr

/-- Which empty chunk an exhausted stream hands out. -/
inductive EndMark
  | text
  | bytes
  deriving DecidableEq, Repr

def EndMark.delivery : EndMark → Delivery
  | text => .text []
  | bytes => .bytes []

structure Stream where
  deliveries : List Delivery
  endMark : EndMark := .text
  deriving DecidableEq, Repr

namespace Stream

def ofText (t : Text) : Stream where
  deliveries := t.map fun c => .text [c]

def ofBytes (bytes : Bytes) : Stream where
  deliveries := bytes.map fun b => .bytes [b]
  endMark := .bytes

/-- A stream that hands out chunks of bytes, and then no more of them. -/
def ofChunks (chunks : List Bytes) : Stream where
  deliveries := chunks.map .bytes
  endMark := .bytes

/-- The bytes are decoded as a whole before anything is read. -/
def ofUtf8 (bytes : Bytes) : Except DecodeError Stream :=
  (Utf8.decode bytes).map ofText

def size (s : Stream) : Nat := s.deliveries.length

/-- One read. -/
def read (s : Stream) : Delivery × Stream :=
  match s.deliveries with
  | [] => (s.endMark.delivery, s)
  | delivery :: rest => (delivery, { s with deliveries := rest })

/-- The next deliveries, as many as asked for or all. -/
def take (s : Stream) (count : Option Nat) : List Delivery × Stream :=
  let n := count.getD s.size
  (s.deliveries.take n, { s with deliveries := s.deliveries.drop n })

end Stream

end ShellWords
