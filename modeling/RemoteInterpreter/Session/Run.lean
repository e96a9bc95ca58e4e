import RemoteInterpreter.Session

/-!
# Runs of a session

A run is a list of actions. Callers build, ask and send; background parties take single
steps; the interpreter's end feeds octets, ends the stream or stops reading. A session
with a process at its far end is a run that begins with `attach`; its kills are told by
their beginning, the steps of the monitor, and `resume`. An action that is not possible
changes nothing.
-/

namespace RemoteInterpreter

namespace Session

inductive Action where
  | build (running : Bool) (d : Draft)
  | begin (r : Request)
  | drop (call : Nat)
  | send (kind : Kind) (source : Text)
  | registerLocal (e : Entry)
  | attach
  | kill
  | heed
  | exit
  | resume
  | advance (p : Party)
  | write
  | read
  | carry (n : Nat)
  | feed (octets : Octets)
  | finish (ending : Ending)
  | stopReceiving (fault : Text)

def act (s : Session) : Action → Session
  | .build running d =>
    match s.build running d with
    | .error _ => s
    | .ok (s, _) => s
  | .begin r => (s.begin r).1
  | .drop n => s.drop n
  | .send kind source => { s with channel := (s.channel.send kind source).1 }
  | .registerLocal e => s.registerLocal e
  | .attach => { s with channel := s.channel.attach }
  | .kill => { s with channel := s.channel.kill }
  | .heed => { s with channel := s.channel.heed }
  | .exit => { s with channel := s.channel.exit }
  | .resume => { s with channel := s.channel.resume }
  | .advance p => (s.advance? p).getD s
  | .write => { s with channel := s.channel.write?.getD s.channel }
  | .read => { s with channel := s.channel.read?.getD s.channel }
  | .carry n => { s with channel := s.channel.carry n }
  | .feed octets => { s with channel := s.channel.feed octets }
  | .finish ending => { s with channel := s.channel.finish ending }
  | .stopReceiving fault => { s with channel := s.channel.stopReceiving fault }

def run (s : Session) (actions : List Action) : Session := actions.foldl act s

@[simp] theorem run_nil (s : Session) : s.run [] = s := rfl

@[simp] theorem run_cons (s : Session) (a : Action) (actions : List Action) :
    s.run (a :: actions) = (s.act a).run actions := rfl

@[simp] theorem run_append (s : Session) (as bs : List Action) :
    s.run (as ++ bs) = (s.run as).run bs := by
  simp [run]

/-- No binding, reader or writer has a step. -/
structure AtRest (s : Session) : Prop where
  bindings : ∀ n, s.advanceBinding? n = none
  writer : s.channel.write? = none
  reader : s.channel.read? = none

end Session

end RemoteInterpreter
