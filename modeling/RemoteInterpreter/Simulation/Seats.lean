/-!
# Seats

Whoever waits at a handle has a numbered seat, and those who listen are told in the
order of their seats. A seat that was left is given away again before a new one is
added, the one left last before the others. Once somebody has seen what became of the
handle nobody sits there any more.
-/

namespace RemoteInterpreter.Simulation

inductive Seat (κ : Type) where
  | vacant
  | taken (holder : κ) (listening : Bool)
  deriving DecidableEq, Repr

structure Seats (κ : Type) where
  seats : List (Seat κ)
  vacant : List Nat
  /-- Somebody has looked in vain, so the seats are told when the handle has ended. -/
  watched : Bool
  /-- Somebody has seen that the handle has ended. -/
  settled : Bool
  deriving Repr

namespace Seats

variable {κ : Type} [DecidableEq κ]

def empty : Seats κ := ⟨[], [], false, false⟩

def isHeldBy (k : κ) : Seat κ → Bool
  | .vacant => false
  | .taken j _ => j == k

/-- Who has a seat already listens again. -/
def take (k : κ) (s : Seats κ) : Seats κ :=
  match s.seats.findIdx? (isHeldBy k), s.vacant with
  | some i, _ => { s with seats := s.seats.set i (.taken k true) }
  | none, i :: rest => { s with seats := s.seats.set i (.taken k true), vacant := rest }
  | none, [] => { s with seats := s.seats ++ [.taken k true] }

def leave (k : κ) (s : Seats κ) : Seats κ :=
  match s.seats.findIdx? (isHeldBy k) with
  | none => s
  | some i => { s with seats := s.seats.set i .vacant, vacant := i :: s.vacant }

def listeners (s : Seats κ) : List κ :=
  s.seats.filterMap fun
    | .taken k true => some k
    | _ => none

/-- Nobody is told twice without a new look. -/
def hushed (s : Seats κ) : Seats κ :=
  { s with
    seats := s.seats.map fun
      | .taken k _ => .taken k false
      | .vacant => .vacant }

def settle (s : Seats κ) : Seats κ := { s with seats := [], vacant := [], settled := true }

end Seats

/-- Of many handles a party looks only at those that it was told of. -/
structure Crowd where
  /-- The handles whose end it has not seen. -/
  left : List Nat
  /-- The handles that it looks at next, in this order. -/
  called : List Nat
  /-- It wants to be told of further ones. -/
  listening : Bool
  deriving Repr

namespace Crowd

def ofUses (uses : List Nat) : Crowd := ⟨uses, uses, false⟩

def call (n : Nat) (c : Crowd) : Crowd :=
  if c.called.contains n then c else { c with called := c.called ++ [n], listening := false }

def saw (n : Nat) (c : Crowd) : Crowd := { c with left := c.left.filter (· ≠ n) }

end Crowd

end RemoteInterpreter.Simulation
