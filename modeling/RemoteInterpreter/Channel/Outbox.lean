import RemoteInterpreter.Text.Utf8
import RemoteInterpreter.Wire

/-!
# Outgoing commands

Commands are numbered in the order in which they are sent, and their lines leave in
that order. The writer works in batches: it starts with the first queued line, goes
on while there are lines, and then flushes. It looks for the order to stop only
between batches. Octets travel through a pipe, from which the interpreter receives
any number at a time.
-/

namespace RemoteInterpreter

structure Outbox where
  /-- Every command that was sent; its id is its position. -/
  commands : List Command
  /-- How many lines the writer has taken. -/
  taken : Nat
  pipe : Octets
  received : Octets
  /-- The writer is inside a batch. -/
  writing : Bool
  stopping : Bool
  stopped : Bool
  /-- What the next write meets, once the interpreter has stopped reading. -/
  refusal : Option Text

namespace Outbox

def empty : Outbox := ⟨[], 0, [], [], false, false, false, none⟩

def octets (c : Command) : Octets := Text.encode c.line

def enqueue (kind : Kind) (source : Text) (o : Outbox) : Outbox :=
  { o with commands := o.commands ++ [⟨o.commands.length, kind, source⟩] }

/-- What the writer does when it may move. -/
inductive Move where
  | rested
  | moved (o : Outbox)
  | failed (fault : Text) (o : Outbox)

/-- A writer that is refused fails, and stops. -/
def write (o : Outbox) : Move :=
  if o.stopped then .rested
  else if !o.writing && o.stopping then .moved { o with stopped := true }
  else
    match o.commands[o.taken]?, o.writing, o.refusal with
    | none, false, _ => .rested
    | none, true, none => .moved { o with writing := false }
    | some c, _, none =>
      .moved { o with taken := o.taken + 1, pipe := o.pipe ++ octets c, writing := true }
    | _, _, some fault => .failed fault { o with stopped := true, writing := false }

/-- Octets reach the interpreter. -/
def carry (n : Nat) (o : Outbox) : Outbox :=
  match o.refusal with
  | none => { o with pipe := o.pipe.drop n, received := o.received ++ o.pipe.take n }
  | some _ => o

/-- What reaches the interpreter when so many octets are carried. -/
def carried (n : Nat) (o : Outbox) : Octets :=
  match o.refusal with
  | none => o.pipe.take n
  | some _ => []

def stop (o : Outbox) : Outbox := { o with stopping := true }

def stopReceiving (fault : Text) (o : Outbox) : Outbox := { o with refusal := some fault }

@[simp] theorem length_commands_enqueue (kind : Kind) (source : Text) (o : Outbox) :
    (o.enqueue kind source).commands.length = o.commands.length + 1 := by
  simp [enqueue]

@[simp] theorem commands_carry (n : Nat) (o : Outbox) : (o.carry n).commands = o.commands := by
  unfold carry
  split <;> rfl

theorem received_carry (n : Nat) (o : Outbox) :
    (o.carry n).received = o.received ++ o.carried n := by
  unfold carry carried
  split <;> simp [*]

/-- Nothing is lost on the way. -/
theorem received_append_pipe_carry (n : Nat) (o : Outbox) :
    (o.carry n).received ++ (o.carry n).pipe = o.received ++ o.pipe := by
  unfold carry
  split
  · simp [List.append_assoc]
  · rfl

end Outbox

end RemoteInterpreter
