import RemoteInterpreter.Expression.Derived
import RemoteInterpreter.Session.Run

/-!
# Building operations

A handle is built from fragments or a template on a session, or on a handle that there
is, in the session of that handle. A program may have several sessions, and whatever it
builds in one of them leaves the others alone.
-/

namespace RemoteInterpreter

/-- A building operation, with all that its caller passes. -/
inductive Construction where
  | expr (session : Nat) (fragments : List Text) (args : List Arg)
  | format (session : Nat) (template : Text) (args : List Arg)
  | formatNamed (session : Nat) (template : Text) (args : List (Text × Arg))
  | attr (h : Handle) (name : Text)
  | index (h : Handle) (key : Arg)
  | item (h : Handle) (key : Arg)
  | raw (h : Handle) (template : Text) (args : List Arg)
  | call (h : Handle) (args : List CallArg)
  | binary (h : Handle) (op : Operator) (operand : Arg)
  | negated (h : Handle)

namespace Construction

/-- The session that the new handle belongs to. -/
def session : Construction → Nat
  | .expr i _ _ | .format i _ _ | .formatNamed i _ _ => i
  | .attr h _ | .index h _ | .item h _ | .raw h _ _ | .call h _ | .binary h _ _ | .negated h =>
    h.session

def draft : Construction → Except UsageError Draft
  | .expr _ fragments args => .ok ⟨fragments, args⟩
  | .format _ template args => Template.draft template args
  | .formatNamed _ template args => Template.namedDraft template args
  | .attr h name => .ok (.attr h name)
  | .index h key => .ok (.subscript h key)
  | .item h key => .ok (.item h key)
  | .raw h template args => Draft.raw h template args
  | .call h args => Draft.call h args
  | .binary h op operand => .ok (.binary h op operand)
  | .negated h => .ok (.negated h)

/-- The handles that the caller passes, at any depth. -/
def handles : Construction → List Handle
  | .expr _ _ args | .format _ _ args => Arg.handlesOfItems args
  | .formatNamed _ _ args => Arg.handlesOfItems (args.map Prod.snd)
  | .attr h _ | .negated h => [h]
  | .index h key | .item h key | .binary h _ key => h :: key.handles
  | .raw h _ args => h :: Arg.handlesOfItems args
  | .call h args => h :: args.flatMap CallArg.handles

end Construction

/-- A program and its sessions, each at its number. -/
structure Program where
  session : Nat → Session

namespace Program

def putSession (i : Nat) (s : Session) (w : Program) : Program := ⟨put w.session i s⟩

/-- The draft is made first, then it is composed, and only then the next variable is taken. -/
def construct (running : Bool) (c : Construction) (w : Program) :
    Program × Except UsageError Handle :=
  match c.draft with
  | .error e => (w, .error e)
  | .ok d =>
    match (w.session c.session).build running d with
    | .error e => (w, .error e)
    | .ok (s, h) => (w.putSession c.session s, .ok h)

inductive Action where
  /-- Anything that may happen in one session. -/
  | step (session : Nat) (a : Session.Action)
  | construct (running : Bool) (c : Construction)

def act (w : Program) : Action → Program
  | .step i a => w.putSession i ((w.session i).act a)
  | .construct running c => (w.construct running c).1

def run (w : Program) (actions : List Action) : Program := actions.foldl act w

@[simp] theorem run_nil (w : Program) : w.run [] = w := rfl

@[simp] theorem run_cons (w : Program) (a : Action) (actions : List Action) :
    w.run (a :: actions) = (w.act a).run actions := rfl

end Program

end RemoteInterpreter
