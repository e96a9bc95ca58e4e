import RemoteInterpreter.Filesystem.Place

/-!
# The standard files

The part of a file system that an interpreter can count on before anything is changed.
-/

namespace RemoteInterpreter

/-- What is at a place. -/
inductive Node where
  | directory
  /-- A file, by the number under which its content is kept. -/
  | file (number : Nat)
  | device
  | program (name : Text)
  | link (target : Text)
  deriving DecidableEq, Repr

namespace Filesystem

structure Occupant where
  node : Node
  /-- Who may do what, as nine bits below a few others. -/
  mode : Nat
  /-- When it was changed last. -/
  stamp : Nat
  deriving DecidableEq, Repr

def directories : List String :=
  ["/boot", "/dev", "/dev/pts", "/dev/shm", "/etc", "/etc/alternatives", "/home", "/media",
   "/mnt", "/opt", "/proc", "/root", "/run", "/srv", "/sys", "/tmp", "/usr", "/usr/bin",
   "/usr/games", "/usr/include", "/usr/lib", "/usr/lib64", "/usr/local", "/usr/local/bin",
   "/usr/local/lib", "/usr/local/sbin", "/usr/local/share", "/usr/sbin", "/usr/share",
   "/usr/src", "/var", "/var/cache", "/var/lib", "/var/log", "/var/spool", "/var/tmp", "/work"]

def files : List String :=
  ["/etc/bash.bashrc", "/etc/debian_version", "/etc/environment", "/etc/fstab", "/etc/group",
   "/etc/host.conf", "/etc/hostname", "/etc/hosts", "/etc/issue", "/etc/ld.so.conf",
   "/etc/nsswitch.conf", "/etc/passwd", "/etc/profile", "/etc/resolv.conf", "/etc/shadow",
   "/etc/shells", "/usr/lib/os-release"]

def devices : List String :=
  ["/dev/full", "/dev/null", "/dev/random", "/dev/tty", "/dev/urandom", "/dev/zero"]

def links : List (String × String) :=
  [("/bin", "usr/bin"), ("/sbin", "usr/sbin"), ("/lib", "usr/lib"), ("/lib64", "usr/lib64"),
   ("/etc/os-release", "../usr/lib/os-release"), ("/var/run", "/run"), ("/var/lock", "/run/lock"),
   ("/dev/fd", "/proc/self/fd"), ("/dev/stdin", "/proc/self/fd/0"),
   ("/dev/stdout", "/proc/self/fd/1"), ("/dev/stderr", "/proc/self/fd/2"),
   ("/usr/bin/sh", "dash"), ("/usr/bin/awk", "/etc/alternatives/awk"),
   ("/usr/bin/nawk", "/etc/alternatives/nawk"), ("/usr/bin/which", "/etc/alternatives/which"),
   ("/usr/bin/rbash", "bash"), ("/usr/bin/md5sum.textutils", "md5sum"),
   ("/etc/alternatives/awk", "/usr/bin/mawk"), ("/etc/alternatives/nawk", "/usr/bin/mawk"),
   ("/etc/alternatives/which", "/usr/bin/which.debianutils")]

/-- The programs in the directory for programs. -/
def programs : List String :=
  ["[", "arch", "b2sum", "base32", "base64", "basename", "basenc", "bash", "cat", "chgrp",
   "chmod", "chown", "cksum", "cmp", "comm", "cp", "csplit", "cut", "dash", "date", "dd", "df",
   "diff", "diff3", "dir", "dircolors", "dirname", "du", "echo", "egrep", "env", "expand", "expr",
   "factor", "false", "fgrep", "find", "flock", "fmt", "fold", "getconf", "getopt", "grep",
   "groups", "gunzip", "gzip", "head", "hostid", "hostname", "iconv", "id", "install", "ionice",
   "join", "kill", "ldd", "link", "ln", "locale", "logger", "logname", "ls", "mawk", "mcookie",
   "md5sum", "mkdir", "mkfifo", "mknod", "mktemp", "mv", "namei", "nice", "nl", "nohup", "nproc",
   "numfmt", "od", "paste", "pathchk", "perl", "pinky", "pr", "printenv", "printf", "ptx", "pwd",
   "readlink", "realpath", "renice", "rev", "rm", "rmdir", "runcon", "sdiff", "sed", "seq",
   "setsid", "sha1sum", "sha224sum", "sha256sum", "sha384sum", "sha512sum", "shred", "shuf",
   "sleep", "sort", "split", "stat", "stdbuf", "stty", "sum", "sync", "tac", "tail", "tar",
   "taskset", "tee", "tempfile", "test", "timeout", "touch", "tr", "true", "truncate", "tsort",
   "tty", "uname", "unexpand", "uniq", "unlink", "users", "vdir", "wc", "which.debianutils",
   "who", "whoami", "xargs", "yes", "zcat", "zcmp", "zgrep"]

def programDirectory : Place := ["usr".toList, "bin".toList]

def passwords : List String :=
  ["root:x:0:0:root:/root:/bin/bash",
   "daemon:x:1:1:daemon:/usr/sbin:/usr/sbin/nologin",
   "bin:x:2:2:bin:/bin:/usr/sbin/nologin",
   "sys:x:3:3:sys:/dev:/usr/sbin/nologin",
   "sync:x:4:65534:sync:/bin:/bin/sync",
   "games:x:5:60:games:/usr/games:/usr/sbin/nologin",
   "man:x:6:12:man:/var/cache/man:/usr/sbin/nologin",
   "lp:x:7:7:lp:/var/spool/lpd:/usr/sbin/nologin",
   "mail:x:8:8:mail:/var/mail:/usr/sbin/nologin",
   "news:x:9:9:news:/var/spool/news:/usr/sbin/nologin",
   "uucp:x:10:10:uucp:/var/spool/uucp:/usr/sbin/nologin",
   "proxy:x:13:13:proxy:/bin:/usr/sbin/nologin",
   "www-data:x:33:33:www-data:/var/www:/usr/sbin/nologin",
   "backup:x:34:34:backup:/var/backups:/usr/sbin/nologin",
   "list:x:38:38:Mailing List Manager:/var/list:/usr/sbin/nologin",
   "irc:x:39:39:ircd:/run/ircd:/usr/sbin/nologin",
   "_apt:x:42:65534::/nonexistent:/usr/sbin/nologin",
   "nobody:x:65534:65534:nobody:/nonexistent:/usr/sbin/nologin"]

def shells : List String :=
  ["# /etc/shells: valid login shells", "/bin/sh", "/usr/bin/sh", "/bin/bash", "/usr/bin/bash",
   "/bin/rbash", "/usr/bin/rbash", "/bin/dash", "/usr/bin/dash"]

def linesText (lines : List String) : Text := lines.flatMap fun l => l.toList ++ ['\n']

/-- What is in the files, as far as that is known. -/
def standardContent (number : Nat) : Text :=
  match files.getD number "" with
  | "/etc/passwd" => linesText passwords
  | "/etc/shells" => linesText shells
  | "/etc/hosts" => "127.0.0.1\tlocalhost\n".toList
  | _ => []

def directoryMode (path : String) : Nat :=
  match path with
  | "/tmp" | "/var/tmp" | "/dev/shm" => 0o1777
  | "/root" => 0o700
  | _ => 0o755

/-- What is at a place before anything is changed. -/
def standard? (p : Place) : Option Occupant :=
  let path := (pathOf p).str
  if p.isEmpty then some ⟨.directory, 0o755, 0⟩
  else if p.dropLast = programDirectory && programs.contains (p.getLastD []).str then
    some ⟨.program (p.getLastD []), 0o755, 0⟩
  else
    match links.lookup path with
    | some target => some ⟨.link target.toList, 0o777, 0⟩
    | none =>
      if directories.contains path then some ⟨.directory, directoryMode path, 0⟩
      else if devices.contains path then some ⟨.device, 0o666, 0⟩
      else
        (files.findIdx? (· == path)).map fun n =>
          ⟨.file n, if path = "/etc/shadow" then 0o640 else 0o644, 0⟩

/-- The names in a directory before anything is changed. -/
def standardNames (p : Place) : List Text :=
  let here (path : String) : Option Text :=
    let q := names path.toList
    if q.dropLast = p then q.getLast? else none
  let listed := (directories ++ files ++ devices ++ links.map Prod.fst).filterMap here
  if p = programDirectory then listed ++ programs.map String.toList else listed

end Filesystem

end RemoteInterpreter
