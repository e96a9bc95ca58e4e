import RemoteInterpreter.Channel
import RemoteInterpreter.Session.Error

/-!
# Errands

Whatever a session does with the interpreter is an errand: wait until the handles it
uses are bound, send one command, and await the answer. An errand moves one stage at a
time; other errands may move between any two of its steps.
-/

namespace RemoteInterpreter

namespace Session

/-- Who runs an errand: the binding of a handle, or a call. -/
inductive Party where
  | binding (handle : Nat)
  | call (number : Nat)
  deriving DecidableEq, Repr

inductive Stage where
  | fresh
  | held
  | sent (ticket : Except ChannelError Nat)
  | parked (id : Nat)
  /-- The handles are bound, and there was nothing to send. -/
  | cleared
  | answered (r : Response)
  | failed (e : Error)
  deriving Repr

/-- What the errand came to: the text of its answer. -/
def Stage.result? : Stage → Option (Except Error Text)
  | .cleared => some (.ok [])
  | .answered r => some (r.outcome.mapError .channel)
  | .failed e => some (.error e)
  | _ => none

/-- How several errands stand together. -/
inductive Joined where
  | waiting
  | ready
  | failed (e : Error)
  deriving Repr

namespace Joined

/-- The first failure in order counts, whatever the others do. -/
def atOnce : List (Option (Except Error Text)) → Joined
  | [] => .ready
  | some (.error e) :: _ => .failed e
  | some (.ok _) :: rest => atOnce rest
  | none :: rest =>
    match atOnce rest with
    | .failed e => .failed e
    | _ => .waiting

/-- Results are taken in order, so a failure counts after all before it went well. -/
def inOrder : List (Option (Except Error Text)) → Joined
  | [] => .ready
  | some (.error e) :: _ => .failed e
  | some (.ok _) :: rest => inOrder rest
  | none :: _ => .waiting

/-- The largest number of errands that are looked at all at once. -/
def smallCount : Nat := 30

def all (results : List (Option (Except Error Text))) : Joined :=
  if results.length ≤ smallCount then atOnce results else inOrder results

end Joined

structure Errand where
  /-- The handles that must be bound first. -/
  uses : List Nat
  command : Option (Kind × Text)
  stage : Stage

namespace Errand

/-- One step of an errand, if it has one. `resolution` tells what has become of each handle. -/
def advance? (p : Party) (resolution : Nat → Option (Except Error Text)) (c : Channel Party)
    (e : Errand) : Option (Channel Party × Stage) :=
  match e.stage with
  | .fresh => some (c, .held)
  | .held =>
    match Joined.all (e.uses.map resolution) with
    | .waiting => none
    | .failed err => some (c, .failed err)
    | .ready =>
      match e.command with
      | none => some (c, .cleared)
      | some (kind, source) =>
        let (c, ticket) := c.send kind source
        some (c, .sent ticket)
  | .sent (.error err) => some (c, .failed (.channel err))
  | .sent (.ok id) =>
    match c.claim p id with
    | (c, .ready r) => some (c, .answered r)
    | (c, .refused err) => some (c, .failed (.channel err))
    | (c, .parked) => some (c, .parked id)
  | .parked _ =>
    match c.pending.answer? p with
    | none => none
    | some (.ok r) => some (c.leave p, .answered r)
    | some (.error reason) => some (c.leave p, .failed (.channel (.closed reason)))
  | .cleared | .answered _ | .failed _ => none

end Errand

end Session

end RemoteInterpreter
