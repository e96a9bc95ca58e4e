import RemoteInterpreter.Shell.Builtin.Directory
import RemoteInterpreter.Shell.Builtin.Input
import RemoteInterpreter.Shell.Builtin.Jobs
import RemoteInterpreter.Shell.Builtin.Names
import RemoteInterpreter.Shell.Builtin.Variables

/-!
# Builtin commands

The table of the commands of the shell itself that need no other commands to be run.
-/

namespace RemoteInterpreter.Shell.Builtin

def limits : List (Char × String × String) :=
  [('t', "time(seconds)        ", "unlimited"), ('f', "file(blocks)         ", "unlimited"),
   ('d', "data(kbytes)         ", "unlimited"), ('s', "stack(kbytes)        ", "8192"),
   ('c', "coredump(blocks)     ", "0"), ('m', "memory(kbytes)       ", "unlimited"),
   ('l', "locked memory(kbytes) ", "8192"), ('p', "process              ", "unlimited"),
   ('n', "nofiles              ", "1048576"), ('v', "vmemory(kbytes)      ", "unlimited"),
   ('w', "locks                ", "unlimited"), ('r', "rtprio               ", "0")]

def ulimit (args : List Text) : Act Unit := do
  let (os, operands) ← options ('H' :: 'S' :: 'a' :: limits.map Prod.fst) args
  setStatus 0
  if os.contains 'a' then
    for (_, name, value) in limits do
      print (name ++ value ++ "\n").toList
  else if operands.isEmpty then
    let wanted := ((os.filter fun c => c ≠ 'H' && c ≠ 'S').getLast?).getD 'f'
    match limits.find? (·.1 = wanted) with
    | some (_, _, value) => print (value ++ "\n").toList
    | none => pure ()

/-- A builtin command that needs no other commands to be run, if there is one of that name. -/
def act? (name : Text) (args : List Text) : Option (Act Unit) :=
  match name.str with
  | ":" | "true" => some (setStatus 0)
  | "false" => some (setStatus 1)
  | "exit" => some (exit args)
  | "return" => some (leaveFunction args)
  | "break" => some (leave .broken args)
  | "continue" => some (leave .continued args)
  | "shift" => some (shift args)
  | "export" | "readonly" => some (declareAll name.str args)
  | "local" => some (localNames args)
  | "unset" => some (unset args)
  | "set" => some (setAny args)
  | "trap" => some (trap args)
  | "kill" => some (kill args)
  | "wait" => some (wait args)
  | "jobs" => some (listJobs args)
  | "read" => some (read args)
  | "echo" => some (echo args)
  | "printf" => some (printFormatted args)
  | "test" => some (test args)
  | "[" => some (testInBrackets args)
  | "cd" | "chdir" => some (cd args)
  | "pwd" => some (pwd args)
  | "getopts" => some (getopts args)
  | "type" => some (describe true args)
  | "alias" => some (defineAliases args)
  | "unalias" => some (unalias args)
  | "hash" => some (hash args)
  | "umask" => some (umask args)
  | "ulimit" => some (ulimit args)
  | "times" => some do
    setStatus 0
    print "0m0.000000s 0m0.000000s\n0m0.000000s 0m0.000000s\n".toList
  | "fg" | "bg" => some (fail "No current job".toList)
  | _ => none

end RemoteInterpreter.Shell.Builtin
