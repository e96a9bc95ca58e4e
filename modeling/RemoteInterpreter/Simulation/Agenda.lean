/-!
# Agendas

What is to be done in the background, and in which order. A task that has something to
do waits in a queue, once at most, and has its turn when it comes to the front. A turn
has an allowance of looks at pipes, answers and handles. Whoever has used it up is put
off, and told again when the queue is empty or a round of turns is over.
-/

namespace RemoteInterpreter.Simulation

inductive Task where
  | writer (session : Nat)
  | reader (session : Nat)
  | farEnd (session : Nat)
  /-- The monitor of the process at the far end, and the kill that waits for it. -/
  | monitor (session : Nat)
  | binding (session handle : Nat)
  deriving DecidableEq, Repr

/-- Whom somebody tells that there may be something to do. -/
inductive Signal where
  | task (t : Task)
  /-- The caller that awaits a call. -/
  | caller
  /-- Everybody who sits at a handle. -/
  | seats (session handle : Nat)
  deriving DecidableEq, Repr

structure Agenda where
  queue : List Task
  /-- Whose turn it is, and whether it is to come again. -/
  onTurn : Option Task
  again : Bool
  allowance : Nat
  /-- Who was put off, the last one first. -/
  deferred : List Signal
  callerDue : Bool
  deriving Repr

namespace Agenda

def fullAllowance : Nat := 128

def empty : Agenda := ⟨[], none, false, fullAllowance, [], false⟩

/-- Nobody waits twice; a task that is told during its turn comes again. -/
def wake (t : Task) (a : Agenda) : Agenda :=
  if a.onTurn = some t then { a with again := true }
  else if a.queue.contains t then a
  else { a with queue := a.queue ++ [t] }

def begin (t : Task) (a : Agenda) : Agenda :=
  { a with onTurn := some t, again := false, allowance := fullAllowance }

def finish (a : Agenda) : Agenda := { a with onTurn := none, again := false }

def spend (a : Agenda) : Agenda := { a with allowance := a.allowance - 1 }

/-- Who is put off twice in a row is told once. -/
def defer (x : Signal) (a : Agenda) : Agenda :=
  if a.deferred.head? = some x then a else { a with deferred := x :: a.deferred }

def rests (a : Agenda) : Bool := a.queue.isEmpty && a.deferred.isEmpty && !a.callerDue

/-- The caller has its turn. -/
def attendCaller (a : Agenda) : Agenda := { a with callerDue := false, allowance := fullAllowance }

end Agenda

end RemoteInterpreter.Simulation
