import RemoteInterpreter.Text.Utf8
import RemoteInterpreter.Channel.Error

/-!
# Incoming responses

The reader fetches what has come, as much as its buffer holds, and cuts it at line feeds. A
piece is decoded, freed of the line ends behind it, and dropped if it is empty or no
response. A stream that comes to its end gives its last piece as well. A stream that breaks
is noticed when the buffer is empty: what has come and was not fetched is lost.
-/

namespace RemoteInterpreter

/-- How a stream ends: after all its octets, or at once. -/
inductive Ending where
  | closed
  | broken (fault : Text)
  deriving DecidableEq, Repr

structure Inbox where
  /-- The piece that has no line feed yet. -/
  unfinished : Octets
  /-- What the reader has fetched and not looked at. -/
  fetched : Octets
  incoming : Octets
  ended : Bool
  fault : Option Text
  stopped : Bool

/-- The response that a piece of the stream holds. -/
def Response.ofPiece? (piece : Octets) : Option Response :=
  match Message.parse (τ := Status) (Text.decodeLossy piece).withoutLineEnds with
  | .ok r => some r
  | .error _ => none

namespace Inbox

def empty : Inbox := ⟨[], [], [], false, none, false⟩

def lineFeed : UInt8 := 10

/-- How many octets the reader fetches at a time. -/
def capacity : Nat := 8192

/-- What the reader does when it may move. -/
inductive Move where
  | rested
  | moved (i : Inbox)
  | piece (octets : Octets) (i : Inbox)
  | finished (reason : CloseReason) (i : Inbox)

/-- Looks at what was fetched. -/
def look (i : Inbox) : Move :=
  match Text.cut? lineFeed i.fetched with
  | some (before, after) =>
    .piece (i.unfinished ++ before) { i with unfinished := [], fetched := after }
  | none => .moved { i with unfinished := i.unfinished ++ i.fetched, fetched := [] }

def fetch (i : Inbox) : Inbox :=
  { i with fetched := i.incoming.take capacity, incoming := i.incoming.drop capacity }

/-- The stream is asked again only when the buffer is empty. -/
def read (i : Inbox) : Move :=
  if i.stopped then .rested
  else if !i.fetched.isEmpty then i.look
  else
    match i.fault with
    | some fault =>
      .finished (.readFailed fault) { i with unfinished := [], incoming := [], stopped := true }
    | none =>
      if !i.incoming.isEmpty then i.fetch.look
      else if !i.ended then .rested
      else if i.unfinished.isEmpty then .finished .outputClosed { i with stopped := true }
      else .piece i.unfinished { i with unfinished := [] }

def feed (octets : Octets) (i : Inbox) : Inbox := { i with incoming := i.incoming ++ octets }

/-- Of several faults the last one is met. -/
def finish (ending : Ending) (i : Inbox) : Inbox :=
  match ending with
  | .closed => { i with ended := true }
  | .broken fault => { i with fault := some fault }

end Inbox

end RemoteInterpreter
