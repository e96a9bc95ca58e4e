import RemoteInterpreter.Channel.Error
import RemoteInterpreter.Expression
import RemoteInterpreter.Value

/-!
# Session errors

An operation of a session fails because of the channel, because a payload cannot be
decoded, or because it was used wrongly. A command that the channel refuses to frame
or to await twice counts as wrong use.
-/

namespace RemoteInterpreter

namespace Session

inductive Error where
  | channel (e : ChannelError)
  | decode (e : DecodeError)
  | usage (e : UsageError)
  deriving DecidableEq, Repr

namespace Error

def isUsage : Error → Bool
  | .channel (.invalidCommand _) | .channel (.alreadyAwaited _) | .usage _ => true
  | _ => false

def isTransport : Error → Bool
  | .channel e => e.isTransport
  | _ => false

def isRemote : Error → Bool
  | .channel (.remote _) => true
  | _ => false

def message : Error → String
  | .channel (.remote text) => text.str
  | .channel (.protocol e) => "protocol error: " ++ e.message
  | .channel (.invalidCommand fault) =>
    "usage error: " ++ (ChannelError.invalidCommand fault).message
  | .channel (.alreadyAwaited id) => "usage error: " ++ (ChannelError.alreadyAwaited id).message
  | .channel e => "transport error: " ++ e.message
  | .decode e => "decode error: " ++ e.message
  | .usage e => "usage error: " ++ e.message

end Error

end Session

end RemoteInterpreter
