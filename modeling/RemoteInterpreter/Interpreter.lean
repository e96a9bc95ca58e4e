import RemoteInterpreter.Text.Utf8

/-!
# Interpreters

Seen from its channel an interpreter is a function: what it has put out depends on what
has happened to it so far, and when, and on how much time has passed. An interpreter that
waits for input, or that sleeps, has simply put out nothing more. One that was killed puts
out nothing itself, but programs that it has started may go on.
-/

namespace RemoteInterpreter

structure Interpreter.Output where
  out : Octets
  err : Octets
  /-- Nothing more will come on the standard output. -/
  outEnded : Bool
  /-- Nothing more will come on the standard error. -/
  errEnded : Bool
  /-- Nothing more will be read. -/
  inEnded : Bool
  /-- It has come to its end itself. -/
  exited : Bool
  /-- When it goes on by itself. -/
  wakesAt : Option Nat
  deriving DecidableEq, Repr

/-- What has happened to an interpreter, and when. -/
structure Interpreter.Input where
  /-- What was received, in pieces. -/
  pieces : List (Nat × Octets)
  /-- The end of what can be received. -/
  ended : Option Nat
  killed : Option Nat
  deriving DecidableEq, Repr

abbrev Interpreter := Interpreter.Input → Nat → Interpreter.Output

namespace Interpreter

/-- How much time passes until something happens to an interpreter, so that it does not meet
anything else. -/
def arrivalTime : Nat := 1000

/-- The complete lines of a stream, without their ends. -/
def linesOf (octets : Octets) : List Text :=
  (Text.splitAt '\n' (Text.decodeLossy octets)).dropLast

/-- The lines of a stream without their ends; the last piece counts once the stream has ended. -/
def linesAndRest (ended : Bool) (octets : Octets) : List Text :=
  let pieces := Text.splitAt '\n' (Text.decodeLossy octets)
  let complete := if ended && pieces.getLast? != some [] then pieces else pieces.dropLast
  complete.map Text.withoutLineEnds

end Interpreter

end RemoteInterpreter
