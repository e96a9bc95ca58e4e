import RemoteInterpreter.Interpreter
import RemoteInterpreter.Shell.Run

/-!
# Shells and other programs as interpreters

A program is followed as far as what it has received and the time that has passed let it
go. Given more of either it is followed again from the start, and puts out the same and
then more, so it is an interpreter in the sense of this library. These programs are what
a session can be started with here; how it starts, and how its process ends, can so be
followed to the last octet. What holds of sessions holds for every interpreter.
-/

namespace RemoteInterpreter.Shell

/-- Every octet is held as the character of the same number. -/
def octetChars (octets : Octets) : Text := octets.map fun b => Char.ofNat b.toNat

def octets (t : Text) : Octets := t.map fun c => UInt8.ofNat c.toNat

/-- How deep commands and words may lie in each other. -/
def startFuel : Nat := 60000

/-- How many turns of loops are made. -/
def startTurns : Nat := 400000

/-- How much is read of files without an end. -/
def startEndless : Nat := 2 ^ 21

/-- The strand of a program that has its descriptors from outside. -/
def firstStrand (environment : List (Text × Text)) (directory : Filesystem.Place) : Strand :=
  { number := 0, shell := 0, clock := 0, born := 0, name := [], params := []
    vars := environment.map fun (name, t) => (name, ⟨some t, true, false⟩)
    functions := [], aliases := [], frames := [], options := [], traps := []
    pending := [], heard := []
    fds := [(0, .source 0), (1, .out), (2, .err)]
    aside := [], status := 0, saved := none, substituted := 0, line := 0, inputLine := 0
    command := none, loops := 0, depth := 0, directory := directory
    path := Filesystem.pathOf directory, mask := 0o22, niceness := 0, lastJob := none
    optionWord := 1, optionsGot := none, unflushed := [], unflushedSize := 0, answers := [],
    fault := none
    tracked := [], isTracing := false }

def firstWorld (input : Interpreter.Input) (elapsed : Instant) : World :=
  let octets := input.pieces.flatMap fun (t, octets) => (octetChars octets).map fun c => (t, c)
  let signals : List Signal := (input.killed.map fun t => ⟨0, t, 9, false⟩).toList
  { elapsed := elapsed, strands := 1, streams := #[⟨octets, [], input.ended⟩], disk := .fresh
    opened := #[], events := [], wakes := [], held := [], jobs := [], signals := signals
    turns := startTurns, endless := startEndless }

/-- What was written to an output, in the order of time. -/
def World.written (w : World) (isError : Bool) : Text :=
  let events := w.events.reverse.filter fun e => e.isError = isError
  (events.mergeSort fun a b => a.instant ≤ b.instant).flatMap Event.text

/-- When the first strand that sleeps goes on. -/
def World.wakesAt (w : World) : Option Instant :=
  match w.wakes.map Prod.snd with
  | [] => none
  | t :: ts => some (ts.foldl min t)

def World.output (exited : Bool) (w : World) : Interpreter.Output :=
  let holds (d : Descriptor) : Bool := w.held.any fun h => h.2 = d
  { out := octets (w.written false), err := octets (w.written true)
    outEnded := !holds .out, errEnded := !holds .err, inEnded := !holds (.source 0)
    exited := exited, wakesAt := w.wakesAt }

/-- What a program puts out that was found at a path, and is run by a name with arguments and an
environment. -/
def interpreter (path : Text) (x : Filesystem.Executable) (name : Text) (args : List Text)
    (environment : List (Text × Text)) (directory : Filesystem.Place) : Interpreter :=
  fun input elapsed =>
    let begun : State := ⟨firstStrand environment directory, firstWorld input elapsed⟩
    match start startFuel path x name args begun with
    | (.error .starved, s) => (s.world.hold s.strand).output false
    | (_, s) => s.world.output true

end RemoteInterpreter.Shell
