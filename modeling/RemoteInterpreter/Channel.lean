import RemoteInterpreter.Channel.Inbox
import RemoteInterpreter.Channel.Outbox
import RemoteInterpreter.Channel.Pending

/-!
# Channels

A channel joins the outgoing commands, the incoming responses and the table in which
responses meet their callers. Callers, writer, reader and interpreter move one step at
a time and in any order. Once the table is closed nothing can be sent any more; what
had arrived before can still be claimed.

If the interpreter is a process of ours, a monitor waits for its end. A kill then does
not close the channel itself: it signals the monitor, which closes the table and kills
the process, and tells the writer to stop only when the monitor has come to its end.
-/

namespace RemoteInterpreter

/-- What watches the process at the far end. -/
inductive Monitor where
  /-- There is no process, or a kill that took the monitor is done with it. -/
  | absent
  /-- The process runs, and no kill has been signalled. -/
  | watching
  /-- The process has ended by itself. -/
  | ended
  /-- A kill has taken the monitor and signalled it, and waits for its end. -/
  | signalled
  /-- The table has been closed, and the process is being killed. -/
  | killing
  /-- The monitor has come to its end, and the kill that waits for it may go on. -/
  | over
  deriving DecidableEq, Repr

namespace Monitor

/-- What a kill makes of a monitor that it takes. Only one kill gets it. -/
def taken? : Monitor → Option Monitor
  | .watching => some .signalled
  | .ended => some .over
  | _ => none

/-- The process has ended. -/
def exited : Monitor → Monitor
  | .watching => .ended
  | .signalled | .killing => .over
  | m => m

end Monitor

structure Channel (κ : Type) where
  outbox : Outbox
  inbox : Inbox
  pending : Pending κ
  monitor : Monitor
  debug : Bool

namespace Channel

variable {κ : Type}

/-- A channel over two streams. -/
def opened (debug : Bool) : Channel κ := ⟨.empty, .empty, .empty, .absent, debug⟩

def isClosed (c : Channel κ) : Bool := c.pending.isClosed

/-- How many commands were sent, which is the next id. An id is a word of 64 bits, so this is so for
fewer than `2 ^ 64` commands; where an id is read back, the bound is part of the statement. -/
def commandsSent (c : Channel κ) : Nat := c.outbox.commands.length

/-- A source that breaks its line is refused, and so is every command on a closed channel. A
refused command takes no id. Looking at the table and queueing are one step, since no task of the
same thread comes in between. A writer that is gone has left a closed table behind
(`isClosed_of_stopped`): the refusal of a command because the writer stopped, for which another
thread would have to close the table in between, is left out. -/
def send (kind : Kind) (source : Text) (c : Channel κ) : Channel κ × Except ChannelError Nat :=
  if source.breaksLine then (c, .error .lineBreak)
  else
    match c.pending.closed with
    | some reason => (c, .error (.closed reason))
    | none => ({ c with outbox := c.outbox.enqueue kind source }, .ok c.commandsSent)

def claim [DecidableEq κ] (k : κ) (id : Nat) (c : Channel κ) : Channel κ × Claim :=
  let (pending, claim) := c.pending.claim k id
  ({ c with pending := pending }, claim)

def leave [DecidableEq κ] (k : κ) (c : Channel κ) : Channel κ :=
  { c with pending := c.pending.leave k }

def close (reason : CloseReason) (c : Channel κ) : Channel κ :=
  { c with pending := c.pending.close reason }

/-- Everybody who waits is told of the kill, and the writer is told to stop. Nothing is awaited in
between. -/
def shut (c : Channel κ) : Channel κ := { c.close .killed with outbox := c.outbox.stop }

/-- The far end is a process, which is watched from now on. -/
def attach (c : Channel κ) : Channel κ :=
  if c.monitor = .absent then { c with monitor := .watching } else c

/-- Whoever finds a monitor signals it and waits for its end. Without one the channel is shut at
once. -/
def kill (c : Channel κ) : Channel κ :=
  match c.monitor.taken? with
  | some m => { c with monitor := m }
  | none => c.shut

/-- A monitor that was signalled closes the table, and kills the process. -/
def heed (c : Channel κ) : Channel κ :=
  if c.monitor = .signalled then { c.close .killed with monitor := .killing } else c

def exit (c : Channel κ) : Channel κ := { c with monitor := c.monitor.exited }

/-- A kill that has waited for the end of its monitor goes on. -/
def resume (c : Channel κ) : Channel κ :=
  if c.monitor = .over then { c.shut with monitor := .absent } else c

/-- One step of the writer, if it has one. -/
def write? (c : Channel κ) : Option (Channel κ) :=
  match c.outbox.write with
  | .rested => none
  | .moved o => some { c with outbox := o }
  | .failed fault o => some { c.close (.writeFailed fault) with outbox := o }

def deliver [DecidableEq κ] (piece : Octets) (c : Channel κ) : Channel κ :=
  match Response.ofPiece? piece with
  | none => c
  | some r => { c with pending := c.pending.insert r }

/-- One step of the reader, if it has one. -/
def read? [DecidableEq κ] (c : Channel κ) : Option (Channel κ) :=
  match c.inbox.read with
  | .rested => none
  | .moved i => some { c with inbox := i }
  | .piece octets i => some (deliver octets { c with inbox := i })
  | .finished reason i => some { c.close reason with inbox := i }

def carry (n : Nat) (c : Channel κ) : Channel κ := { c with outbox := c.outbox.carry n }

def feed (octets : Octets) (c : Channel κ) : Channel κ := { c with inbox := c.inbox.feed octets }

def finish (ending : Ending) (c : Channel κ) : Channel κ :=
  { c with inbox := c.inbox.finish ending }

def stopReceiving (fault : Text) (c : Channel κ) : Channel κ :=
  { c with outbox := c.outbox.stopReceiving fault }

theorem send_of_breaksLine {source : Text} (h : source.breaksLine = true) (kind : Kind)
    (c : Channel κ) : c.send kind source = (c, .error .lineBreak) := by
  simp [send, h]

theorem send_of_closed {source : Text} {reason : CloseReason} {c : Channel κ}
    (h : source.breaksLine = false) (hc : c.pending.closed = some reason) (kind : Kind) :
    c.send kind source = (c, .error (.closed reason)) := by
  simp [send, h, hc]

theorem send_of_open {source : Text} {c : Channel κ} (h : source.breaksLine = false)
    (hc : c.pending.closed = none) (kind : Kind) :
    c.send kind source =
      ({ c with outbox := c.outbox.enqueue kind source }, .ok c.commandsSent) := by
  simp [send, h, hc]

def shown (c : Channel κ) : String :=
  "Channel \x7b commands_sent: " ++ (Numeral.write c.commandsSent).str ++ ", closed: " ++
    toString c.isClosed ++ ", debug: " ++ toString c.debug ++ " \x7d"

end Channel

end RemoteInterpreter
