import ShellWords.Token.Session

/-!
How a request is served, read by read. A request for words or for everything takes as many calls as
it needs, and a call as many reads.
-/
namespace ShellWords

/-- What a request is about, with what has been collected for it. -/
inductive Errand
  | token
  | word
  | tokens (collected : List Token)
  | words (collected : List Text)

def Request.errand : Request → Errand
  | .token => .token
  | .word => .word
  | .tokens => .tokens []
  | .words => .words []

/-- How far a request has been served. In the middle of a call there are a phase, and the characters
kept of the token at hand, last one first. -/
inductive Service
  | reading (errand : Errand) (phase : Phase) (read : Text) (r : Reader) (s : Stream)
  | served (response : Response)

namespace Service

/-- Before a call. -/
def call (errand : Errand) (r : Reader) (s : Stream) : Service := .reading errand .start [] r s

/-- After a call: the response is there, or there has to be another call. -/
def answered (errand : Errand) (answer : Answer) (r : Reader) (s : Stream) : Service :=
  match errand with
  | .token => .served ⟨.token answer, r, s⟩
  | .word =>
    match answer with
    | .error e => .served ⟨.word (.error e), r, s⟩
    | .ok none => .served ⟨.word (.ok none), r, s⟩
    | .ok (some t) => match t.word? with
      | some w => .served ⟨.word (.ok (some w)), r, s⟩
      | none => call .word r s
  | .tokens collected =>
    match answer with
    | .error e => .served ⟨.tokens (.error e), r, s⟩
    | .ok none => .served ⟨.tokens (.ok collected), r, s⟩
    | .ok (some t) => call (.tokens (collected ++ [t])) r s
  | .words collected =>
    match answer with
    | .error e => .served ⟨.words (.error e), r, s⟩
    | .ok none => .served ⟨.words (.ok collected), r, s⟩
    | .ok (some t) => call (.words (collected ++ t.word?.toList)) r s

/-- One read, and what it does to the call at hand. Nothing counts the reads. -/
def step : Service → Service
  | .reading errand phase read r s =>
    match Receipt.ofDelivery r.held s.read.1 with
    | .failed e => answered errand (.error e) r s.read.2
    | .waiting held => .reading errand phase read { r with held } s.read.2
    | .unit unit held =>
      if unit.isEmpty then answered errand (phase.finish read) { r with held } s.read.2
      else match phase.step (r.classifier.classify unit) unit with
        | .skip next => .reading errand next read { r with held } s.read.2
        | .keep next => .reading errand next (unit.reverse ++ read) { r with held } s.read.2
        | .emit kind =>
          answered errand (.ok (some ⟨kind, read.reverse⟩)) { r with held } s.read.2
  | .served response => .served response

end Service

end ShellWords
