import RemoteInterpreter.Shell.Tool.Alphabet
import RemoteInterpreter.Shell.Tool.Awk
import RemoteInterpreter.Shell.Tool.Blocks
import RemoteInterpreter.Shell.Tool.Columns
import RemoteInterpreter.Shell.Tool.Copying
import RemoteInterpreter.Shell.Tool.Counting
import RemoteInterpreter.Shell.Tool.Dates
import RemoteInterpreter.Shell.Tool.Dumping
import RemoteInterpreter.Shell.Tool.Editor
import RemoteInterpreter.Shell.Tool.Gathering
import RemoteInterpreter.Shell.Tool.Listing
import RemoteInterpreter.Shell.Tool.Naming
import RemoteInterpreter.Shell.Tool.Order
import RemoteInterpreter.Shell.Tool.Paragraphs
import RemoteInterpreter.Shell.Tool.Running
import RemoteInterpreter.Shell.Tool.Scaling
import RemoteInterpreter.Shell.Tool.Search
import RemoteInterpreter.Shell.Tool.Speaking
import RemoteInterpreter.Shell.Tool.Storing

/-!
# Tools

The programs that scripts are made of, by their names.
-/

namespace RemoteInterpreter.Shell.Tool

/-- Puts out what is left, and complains if something could not be put out. -/
def finish (called : Text) : Act Unit := do
  flush
  match (← strand).fault with
  | none => pure ()
  | some why =>
    writeError (called ++ ": write error: ".toList ++ why.toList ++ ['\n'])
    setStatus 1

/-- What a program does that is called by a name. -/
def act? (l : Launcher) (program called : Text) (args : List Text) : Option (Act Unit) :=
  match program.str with
  | "true" => some (pure ())
  | "false" => some (setStatus 1)
  | "echo" => some (echo args)
  | "printf" => some (printf called args)
  | "test" => some (test called args)
  | "[" => some (testInBrackets called args)
  | "yes" => some (yes called args)
  | "cat" => some (cat called args)
  | "head" => some (head called args)
  | "rev" => some (rev called args)
  | "tac" => some (tac called args)
  | "tail" => some (tail called args)
  | "tee" => some (tee called args)
  | "nl" => some (nl Search.holdsMatch called args)
  | "uniq" => some (uniq called args)
  | "wc" => some (wc called args)
  | "comm" => some (comm called args)
  | "cut" => some (cut called args)
  | "expand" => some (expand called args)
  | "fold" => some (fold called args)
  | "join" => some (join called args)
  | "paste" => some (paste called args)
  | "unexpand" => some (unexpand called args)
  | "sort" => some (sort called args)
  | "tsort" => some (tsort called args)
  | "tr" => some (tr called args)
  | "grep" => some (grep none called args)
  | "egrep" => some (grep (some 'E') "grep".toList args)
  | "fgrep" => some (grep (some 'F') "grep".toList args)
  | "sed" => some (sed l called args)
  | "expr" => some (expr called args)
  | "factor" => some (factor called args)
  | "seq" => some (seq called args)
  | "od" => some (od called args)
  | "base64" => some (inLetters sixtyFour called args)
  | "base32" => some (inLetters thirtyTwo called args)
  | "md5sum" | "md5sum.textutils" => some (digest "MD5" Digest.md5 called args)
  | "sha1sum" => some (digest "SHA1" Digest.sha1 called args)
  | "sha224sum" => some (digest "SHA224" Digest.sha224 called args)
  | "sha256sum" => some (digest "SHA256" Digest.sha256 called args)
  | "sha384sum" => some (digest "SHA384" Digest.sha384 called args)
  | "sha512sum" => some (digest "SHA512" Digest.sha512 called args)
  | "cksum" => some (cksum called args)
  | "sum" => some (sum called args)
  | "basename" => some (basename called args)
  | "dirname" => some (dirname called args)
  | "readlink" => some (readlink called args)
  | "realpath" => some (realpath called args)
  | "which" | "which.debianutils" => some (which args)
  | "whoami" => some (tells called args "root")
  | "arch" => some (tells called args "x86_64")
  | "nproc" => some (tells called args "4")
  | "id" => some (identity called args)
  | "uname" => some (uname called args)
  | "pwd" => some (pwd called args)
  | "env" => some (env l called args)
  | "nice" => some (nice l called args)
  | "nohup" => some (nohup l called args)
  | "printenv" => some (printenv called args)
  | "setsid" => some (setsid l called args)
  | "sleep" => some (sleep called args)
  | "stdbuf" => some (stdbuf l called args)
  | "timeout" => some (timeout l called args)
  | "xargs" => some (xargs l called args)
  | "tty" => some (tty called args)
  | "stty" => some (stty called args)
  | "logname" => some (logname called args)
  | "groups" => some (groups called args)
  | "ls" => some (ls called args)
  | "cmp" => some (cmp called args)
  | "chmod" => some (chmod called args)
  | "cp" => some (cp called args)
  | "link" => some (link called args)
  | "ln" => some (ln called args)
  | "mkdir" => some (mkdir called args)
  | "mktemp" => some (mktemp called args)
  | "mv" => some (mv called args)
  | "rm" => some (rm called args)
  | "rmdir" => some (rmdir called args)
  | "touch" => some (touch called args)
  | "truncate" => some (truncate called args)
  | "unlink" => some (unlink called args)
  | "date" => some (date called args)
  | "dd" => some (dd called args)
  | "fmt" => some (fmt called args)
  | "numfmt" => some (numfmt called args)
  | "shuf" => some (shuf called args)
  | "split" => some (split l called args)
  | "awk" | "mawk" | "nawk" => some (awk l called args)
  | "kill" => Builtin.act? program args
  | _ => none

/-- Runs a program by its own name, and the name that it was called by. -/
def run (l : Launcher) (program called : Text) (args : List Text) : Act Unit := do
  setStatus 0
  (act? l program called args).getD (pure ())

end RemoteInterpreter.Shell.Tool
