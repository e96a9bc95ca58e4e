import RemoteInterpreter.Text.Utf8
import RemoteInterpreter.Wire

/-!
# Scripted interpreters

An interpreter that answers by rules. The first rule that applies to a command decides,
and it may decide not to answer. A command without a rule is acknowledged.
-/

namespace RemoteInterpreter

namespace Scripted

structure Rule where
  /-- How the kind is spelled. No command is of a kind that is spelled otherwise. -/
  kind : Option Text
  occurring : Option Text
  reply : Option (Status × Text)
  deriving Repr

/-- A condition that a rule does not have is met by every command. -/
def Rule.applies (r : Rule) (c : Command) : Bool :=
  r.kind.all (· == c.tag.spelling) && r.occurring.all fun part => Text.occursIn part c.text

/-- Statements run to their end, and expressions have no value. -/
def acknowledgement (c : Command) : Response :=
  match c.tag with
  | .exec => ⟨c.id, .pass, execOk⟩
  | .eval => ⟨c.id, .pass, ['n', 'u', 'l', 'l']⟩

def reply? (rules : List Rule) (c : Command) : Option Response :=
  match rules.find? fun r => r.applies c with
  | none => some (acknowledgement c)
  | some r => r.reply.map fun (status, text) => ⟨c.id, status, text⟩

/-- The octets that answer a line; a line that is no command is skipped. -/
def answer (rules : List Rule) (line : Text) : Octets :=
  match Message.parse (τ := Kind) line with
  | .error _ => []
  | .ok c =>
    match reply? rules c with
    | none => []
    | some r => Text.encode r.line

end Scripted

end RemoteInterpreter
