import RemoteInterpreter.Wire

/-!
# Channel errors

What can go wrong between a caller and the interpreter. The interpreter is out of
reach after some of these errors; a raised exception is not one of them.
-/

namespace RemoteInterpreter

inductive CloseReason where
  | killed
  | outputClosed
  | readFailed (fault : Text)
  | writeFailed (fault : Text)
  | stated (text : Text)
  deriving DecidableEq, Repr

def CloseReason.message : CloseReason → String
  | .killed => "channel killed"
  | .outputClosed => "interpreter closed its output"
  | .readFailed fault => "failed to read from interpreter: " ++ fault.str
  | .writeFailed fault => "failed to write to interpreter: " ++ fault.str
  | .stated text => text.str

inductive ChannelError where
  | spawn (fault : Text)
  | io (fault : Text)
  | closed (reason : CloseReason)
  | protocol (e : LineError)
  | remote (text : Text)
  | invalidCommand (fault : Text)
  | alreadyAwaited (id : Nat)
  deriving DecidableEq, Repr

namespace ChannelError

/-- What the interpreter raised is passed on as it is. -/
def message : ChannelError → String
  | .spawn fault => "failed to spawn interpreter: " ++ fault.str
  | .io fault => "interpreter I/O error: " ++ fault.str
  | .closed reason => "channel closed: " ++ reason.message
  | .protocol e => "protocol error: " ++ e.message
  | .remote text => text.str
  | .invalidCommand fault => "invalid command: " ++ fault.str
  | .alreadyAwaited id => "request " ++ (Numeral.write id).str ++ " is already being awaited"

/-- Whether the interpreter is out of reach. -/
def isTransport : ChannelError → Bool
  | .spawn _ | .io _ | .closed _ => true
  | _ => false

def lineBreak : ChannelError :=
  .invalidCommand "source text must not contain line breaks".toList

end ChannelError

/-- The text of a response, if the command went well. -/
def Response.outcome (r : Response) : Except ChannelError Text :=
  if r.isPass then .ok r.text else .error (.remote r.text)

end RemoteInterpreter
