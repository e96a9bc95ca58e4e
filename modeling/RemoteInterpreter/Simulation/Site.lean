import RemoteInterpreter.Interpreter
import RemoteInterpreter.Session.Run
import RemoteInterpreter.Simulation.Agenda
import RemoteInterpreter.Simulation.Seats

/-!
# Sites

A session together with the far end of its channel. Two pipes of limited room lie in
between: whoever writes waits while there is none, whoever reads waits while there is
nothing.
-/

namespace RemoteInterpreter.Simulation

open Session (Party)

/-- What is at the far end. -/
inductive Nature where
  /-- It reads, and somebody else writes in its place. -/
  | silent
  /-- It answers the lines, each by itself. -/
  | answering (answer : Text → Octets)
  | interpreter (i : Interpreter)

/-- What the far end waits for. -/
inductive Need where
  | nothing
  | input
  | room
  deriving DecidableEq, Repr

structure FarEnd where
  nature : Nature
  /-- Received octets that are not part of a line yet. -/
  unread : Octets
  /-- The part of an answer that had no room. -/
  unsent : Octets
  /-- How many octets were sent by an interpreter. -/
  sent : Nat
  /-- What has happened to an interpreter. -/
  input : Interpreter.Input
  /-- How much time has passed. -/
  elapsed : Nat
  /-- What an interpreter has put out by now, once that is known. -/
  output : Option Interpreter.Output
  need : Need
  /-- It was told to stop reading. -/
  leaving : Bool
  gone : Bool

/-- Something happens to an interpreter, at its own time. -/
def FarEnd.befall (change : Nat → Interpreter.Input → Interpreter.Input) (f : FarEnd) : FarEnd :=
  let now := f.elapsed + Interpreter.arrivalTime
  { f with elapsed := now, input := change now f.input, output := none }

def FarEnd.receive (fresh : Octets) (f : FarEnd) : FarEnd :=
  if fresh.isEmpty then f
  else f.befall fun now input => { input with pieces := input.pieces ++ [(now, fresh)] }

/-- Nothing more will come. -/
def FarEnd.receiveEnd (f : FarEnd) : FarEnd :=
  if f.input.ended.isSome then f else f.befall fun now input => { input with ended := some now }

def FarEnd.kill (f : FarEnd) : FarEnd :=
  f.befall fun now input => { input with killed := some now }

/-- Time goes on. -/
def FarEnd.elapse (now : Nat) (f : FarEnd) : FarEnd := { f with elapsed := now, output := none }

structure Site where
  session : Session
  farEnd : FarEnd
  /-- How many octets of the writer's have entered the pipe and were not taken out. -/
  entered : Nat
  /-- The writer waits for room. -/
  writerWaits : Bool
  /-- Who waits at each handle. -/
  seats : List (Seats Party)
  crowds : List (Party × Crowd)
  /-- How many received octets were reported. -/
  reported : Nat

namespace Site

def ofSession (s : Session) (nature : Nature) : Site :=
  ⟨s, ⟨nature, [], [], 0, ⟨[], none, none⟩, 0, none, .nothing, false, false⟩, 0, false, [], [], 0⟩

/-- How many octets a pipe holds. -/
def capacity : Nat := 65536

/-- How many octets are taken out of a pipe at a time. -/
def chunk : Nat := 8192

/-- The room in the pipe to the session. -/
def room (x : Site) : Nat := capacity - x.session.channel.inbox.incoming.length

def seatsAt (n : Nat) (x : Site) : Seats Party := x.seats.getD n .empty

def putSeats (n : Nat) (seats : Seats Party) (x : Site) : Site :=
  { x with
    seats := (x.seats ++ List.replicate (n + 1 - x.seats.length) Seats.empty).set n seats }

def crowd? (p : Party) (x : Site) : Option Crowd := x.crowds.lookup p

def dropCrowd (p : Party) (x : Site) : Site := { x with crowds := x.crowds.filter (·.1 ≠ p) }

def putCrowd (p : Party) (c : Crowd) (x : Site) : Site :=
  { x with crowds := (p, c) :: (x.dropCrowd p).crowds }

/-- A party leaves the handles that it waited at. -/
def leave (p : Party) (uses : List Nat) (x : Site) : Site :=
  uses.foldl (fun x n => x.putSeats n ((x.seatsAt n).leave p)) (x.dropCrowd p)

def hasEnded (n : Nat) (x : Site) : Bool := (x.session.resolution? n).isSome

def hasFailed (n : Nat) (x : Site) : Bool :=
  match x.session.resolution? n with
  | some (.error _) => true
  | _ => false

/-- Whether a failure ends the wait at many handles: all before it were seen to have ended well. -/
def hasFailedInOrder (uses left : List Nat) (x : Site) : Bool :=
  match (uses.takeWhile fun n => !left.contains n).find? x.hasFailed with
  | some _ => true
  | none => false

/-- The errand of a party that has not come to its end. -/
def errand? (p : Party) (x : Site) : Option Session.Errand :=
  match p with
  | .binding n => if x.hasEnded n then none else (x.session.bindings n).map Session.Binding.errand
  | .call n =>
    (x.session.calls n).bind fun c => if c.result.isSome then none else some c.errand

/-- What an interpreter at the far end has put out by now. -/
def output? (x : Site) : Option Interpreter.Output :=
  match x.farEnd.nature with
  | .interpreter i =>
    match x.farEnd.output with
    | some o => some o
    | none => some (i x.farEnd.input x.farEnd.elapsed)
  | _ => none

def isAnswered (p : Party) (x : Site) : Bool := (x.session.channel.pending.answer? p).isSome

/-- Everybody who waits for an answer. -/
def parked (x : Site) : List Party :=
  let parties := (List.range x.session.built).map Party.binding ++
    (List.range x.session.begun).map Party.call
  parties.filter fun p =>
    match x.session.channel.pending.place p with
    | .parked _ => true
    | _ => false

/-- Who gets an answer by an action. -/
def reached (a : Session.Action) (x : Site) : List Party :=
  let c := x.session.channel
  match a with
  | .kill | .heed | .resume => if (x.session.act a).channel.isClosed then x.parked else []
  | .write =>
    match c.outbox.write with
    | .failed _ _ => x.parked
    | _ => []
  | .read =>
    match c.inbox.read with
    | .finished _ _ => x.parked
    | .piece octets _ => ((Response.ofPiece? octets).bind fun r => c.pending.live? r.id).toList
    | _ => []
  | _ => []

/-- The bindings that end by an action. -/
def ended (a : Session.Action) (x : Site) : List Nat :=
  match a with
  | .advance (.binding n) =>
    if !x.hasEnded n && ((x.session.act a).resolution? n).isSome then [n] else []
  | _ => []

/-- Whether a task has come to its end. -/
def isOver (x : Site) : Task → Bool
  | .writer _ => x.session.channel.outbox.stopped
  | .reader _ => x.session.channel.inbox.stopped
  | .farEnd _ => x.farEnd.gone
  | .monitor _ => false
  | .binding _ n => x.hasEnded n

/-- An upper bound on the steps that a party can do in one turn. -/
def stepBound (p : Party) (x : Site) : Nat :=
  match p with
  | .binding _ => 6
  | .call n =>
    match (x.session.calls n).map Session.Call.goal with
    | some (.installed entries) => 4 * entries.length + 8
    | _ => 8

end Site

end RemoteInterpreter.Simulation
