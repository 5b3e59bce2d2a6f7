import ShellWords.Token.Reader

/-!
Reading units: what a reader of tokens gets to see at a time. Bytes are put together until they make
up characters.
-/
namespace ShellWords

/-- Reads on until there is a unit. An empty one is the end of the input. -/
def scanUnit (mark : EndMark) (held : Bytes) : List Delivery → Scan Text
  | [] =>
    match Receipt.ofDelivery held mark.delivery with
    | .failed e => ⟨.error e, held, []⟩
    | .unit _ held => ⟨.ok [], held, []⟩
    | .waiting held => ⟨.ok [], held, []⟩
  | delivery :: rest =>
    match Receipt.ofDelivery held delivery with
    | .failed e => ⟨.error e, held, rest⟩
    | .waiting held => scanUnit mark held rest
    | .unit unit held => ⟨.ok unit, held, rest⟩

namespace Reader

/-- The next unit. -/
def nextUnit (r : Reader) (s : Stream) : Reading Text :=
  let scanned := scanUnit s.endMark r.held s.deliveries
  ⟨scanned.answer, { r with held := scanned.held }, { s with deliveries := scanned.rest }⟩

/-- What so many reads give, one after the other. -/
def reads (r : Reader) (s : Stream) : Nat → List (Except ReadError Text)
  | 0 => []
  | count + 1 =>
    (r.nextUnit s).answer :: (r.nextUnit s).reader.reads (r.nextUnit s).stream count

end Reader

end ShellWords
