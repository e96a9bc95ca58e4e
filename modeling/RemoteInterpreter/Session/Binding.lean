import RemoteInterpreter.Session.Errand
import RemoteInterpreter.Expression.Derived

/-!
# Bindings

Every handle is bound once, by executing an assignment of its expression to its
variable. The state of a handle is recorded as the binding goes on; a handle that was
forced successfully counts as evaluated.
-/

namespace RemoteInterpreter

namespace Session

inductive State where
  | created
  | resolving
  | bound
  | evaluated
  | failed
  | closed
  deriving DecidableEq, Repr

namespace State

def isBound : State → Bool
  | .bound | .evaluated => true
  | _ => false

def name : State → String
  | .created => "created"
  | .resolving => "resolving"
  | .bound => "bound"
  | .evaluated => "evaluated"
  | .failed => "failed"
  | .closed => "closed"

def shown : State → String
  | .created => "Created"
  | .resolving => "Resolving"
  | .bound => "Bound"
  | .evaluated => "Evaluated"
  | .failed => "Failed"
  | .closed => "Closed"

/-- Only a bound handle becomes evaluated. -/
def marked (s : State) : State := if s.isBound then .evaluated else s

end State

structure Binding where
  expression : Expression
  state : State
  errand : Errand

namespace Binding

/-- Assigns the expression to the variable. -/
def source (h : Handle) (x : Expression) : Text := h.name ++ ' ' :: '=' :: ' ' :: x.source

def uses (x : Expression) : List Nat := x.uses.map Handle.number

def errandAt (h : Handle) (x : Expression) (stage : Stage) : Errand :=
  ⟨uses x, some (.exec, source h x), stage⟩

/-- What became of the binding, once it has ended. -/
def resolution? (b : Binding) : Option (Except Error Text) := b.errand.stage.result?

/-- The binding after a step of its errand. A binding that was begun goes on as long as anything
runs in the background; the error of one that was stopped with all the rest is left out, since
nobody is left to see what comes of it in the session. -/
def atStage (stage : Stage) (b : Binding) : Binding :=
  { b with
    errand := { b.errand with stage := stage }
    state :=
      match stage.result? with
      | some (.ok _) => .bound
      | some (.error _) => .failed
      | none => .resolving }

end Binding

end Session

end RemoteInterpreter
