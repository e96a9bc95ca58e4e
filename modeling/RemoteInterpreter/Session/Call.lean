import RemoteInterpreter.Session.Binding
import RemoteInterpreter.Decode.Registry
import RemoteInterpreter.Value

/-!
# Calls

A call is an operation that somebody awaits. It runs one errand, or one errand after
another for the entries of a pack of decoders, and makes its result of the answer. A
request that is wrong in itself fails before anything is sent.
-/

namespace RemoteInterpreter

namespace Session

/-- What a caller may ask for. -/
inductive Request where
  | resolved (h : Handle)
  | force (h : Handle)
  | exec (source : Text)
  | eval (source : Text)
  | execWith (template : Text) (args : List Arg)
  | evalWith (template : Text) (args : List Arg)
  | importModule (name : Text)
  | install (entries : List Entry)
  | receive (id : Nat)
  | receivePayload (id : Nat)
  | sendAndReceive (kind : Kind) (source : Text)

/-- What a call gives. -/
inductive Answer where
  | done
  | payload (text : Text)
  | response (r : Response)
  | value (v : Value)
  | handle (h : Handle)
  deriving Repr

/-- What is made of the answer to the errand. -/
inductive Goal where
  | done
  | payload
  | response
  | value
  | forced (handle : Nat)
  | boundModule (name : Text)
  /-- These entries are left to be stored. -/
  | installed (entries : List Entry)

structure Call where
  goal : Goal
  errand : Errand
  result : Option (Except Error Answer)

namespace Call

def started (goal : Goal) (uses : List Nat) (command : Option (Kind × Text)) : Call :=
  ⟨goal, ⟨uses, command, .held⟩, none⟩

/-- Waits for an answer to a command that was sent before. -/
def awaiting (goal : Goal) (id : Nat) : Call := ⟨goal, ⟨[], none, .sent (.ok id)⟩, none⟩

def refused (e : Error) : Call := ⟨.done, ⟨[], none, .failed e⟩, some (.error e)⟩

/-- The command of a template, once its handles are bound. -/
def templated (session : Nat) (goal : Goal) (kind : Kind) (template : Text) (args : List Arg) :
    Call :=
  match (Template.draft template args).bind (Expression.compose session) with
  | .error e => refused (.usage e)
  | .ok x => started goal (Binding.uses x) (some (kind, x.source))

def importSource (name : Text) : Text := "import ".toList ++ name

def ofRequest (session : Nat) : Request → Call
  | .resolved h => started .done [h.number] none
  | .force h => started (.forced h.number) [h.number] (some (.eval, h.name))
  | .exec source => started .done [] (some (.exec, source))
  | .eval source => started .value [] (some (.eval, source))
  | .execWith template args => templated session .done .exec template args
  | .evalWith template args => templated session .value .eval template args
  | .importModule name =>
    if Identifier.isModuleName name then
      started (.boundModule name) [] (some (.exec, importSource name))
    else refused (.usage (.badModuleName name))
  | .install entries => started (.installed entries) [] none
  | .receive id => awaiting .response id
  | .receivePayload id => awaiting .payload id
  | .sendAndReceive kind source => started .payload [] (some (kind, source))

def finished (result : Except Error Answer) (c : Call) : Call := { c with result := some result }

def atStage (stage : Stage) (c : Call) : Call :=
  { c with errand := { c.errand with stage := stage } }

end Call

end Session

end RemoteInterpreter
