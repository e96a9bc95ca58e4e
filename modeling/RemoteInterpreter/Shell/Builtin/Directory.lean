import RemoteInterpreter.Shell.Builtin.Basic

/-!
# Directories and rights

The builtin commands that change the directory, and the rights that files are made
without.
-/

namespace RemoteInterpreter.Shell.Builtin

open Filesystem

/-- The last of the options that tell whether links are followed. -/
def isPhysical (os : List Char) : Bool := os.getLast? = some 'P'

/-- A path put behind another one, with its dots resolved by their names alone. -/
def putBehind (here path : Text) : Text :=
  let isDouble : Bool := match (if isAbsolute path then path else here) with
    | '/' :: '/' :: c :: _ => c ≠ '/'
    | ['/', '/'] => true
    | _ => false
  let place := follow (names here) path
  let t := pathOf place
  if isDouble then (if place.isEmpty then ['/', '/'] else '/' :: t) else t

/-- Goes to a directory. The result tells whether it is there. -/
def enter (physical : Bool) (path : Text) : Act Bool := do
  let s ← strand
  let target := if physical then path else putBehind s.path path
  match ← locate target with
  | .ok (place, ⟨.directory, _, _⟩) =>
    assign "OLDPWD".toList s.path
    let now := if physical then pathOf place else target
    changeStrand fun s => { s with directory := place, path := now }
    assign "PWD".toList now
    let export_ (name : String) (s : Strand) : Strand :=
      match s.variableOf? name.toList with
      | some v => s.putVariable name.toList { v with isExported := true }
      | none => s
    changeStrand fun s => export_ "PWD" (export_ "OLDPWD" s)
    return true
  | _ => return false

/-- Paths that begin with dots are not searched. -/
def isSearched (path : Text) : Bool :=
  match components path with
  | [] => false
  | first :: _ => !isAbsolute path && first ≠ ['.'] && first ≠ ['.', '.']

/-- The first directory below one of some others. The result tells how it is named. -/
def searchBelow (path : Text) : List Text → Act (Option (Text × Bool))
  | [] => return none
  | d :: rest => do
    let candidate := if d.isEmpty then path else d ++ '/' :: path
    match ← locate candidate with
    | .ok (_, ⟨.directory, _, _⟩) => return some (candidate, !d.isEmpty)
    | _ => searchBelow path rest

def cd (args : List Text) : Act Unit := do
  let (os, args) ← options ['L', 'P'] args
  let s ← strand
  let (path, shows) : Text × Bool := match args with
    | [] => ((s.value? "HOME".toList).getD [], false)
    | ['-'] :: _ => ((s.value? "OLDPWD".toList).getD [], true)
    | path :: _ => (path, false)
  let wanted := if path.isEmpty then ['.'] else path
  let found ← if !isSearched path then pure none
    else
      match s.value? "CDPATH".toList with
      | some dirs => searchBelow wanted (Text.splitAt ':' dirs)
      | none => pure none
  let (target, shows) := match found with
    | some (t, searched) => (t, shows || searched)
    | none => (wanted, shows)
  if ← enter (isPhysical os) target then
    if shows then print ((← strand).path ++ ['\n'])
    setStatus 0
  else fail ("can't cd to ".toList ++ path)

def pwd (args : List Text) : Act Unit := do
  let (os, _) ← options ['L', 'P'] args
  setStatus 0
  let s ← strand
  print ((if isPhysical os then pathOf s.directory else s.path) ++ ['\n'])

/-! Rights -/

/-- At least four octal digits. -/
def octal4 (n : Nat) : Text :=
  let digits := Nat.toDigits 8 n
  List.replicate (4 - digits.length) '0' ++ digits

/-- The rights that a mask leaves, by letters. -/
def rightsShown (mask : Nat) : Text :=
  let class_ (name : Char) (shift : Nat) : Text :=
    let has (bit : Nat) (c : Char) : Text := if (mask >>> shift) &&& bit = 0 then [c] else []
    name :: '=' :: has 4 'r' ++ has 2 'w' ++ has 1 'x'
  class_ 'u' 6 ++ ',' :: class_ 'g' 3 ++ ',' :: class_ 'o' 0

/-- Who a letter stands for. -/
def whoseBits (c : Char) : Nat :=
  match c with
  | 'a' => 0o111
  | 'u' => 0o100
  | 'g' => 0o010
  | 'o' => 0o001
  | _ => 0

def bitsOf (rights : Nat) (c : Char) : Nat :=
  match c with
  | 'r' => 4
  | 'w' => 2
  | 'x' => 1
  | 'u' => rights >>> 6
  | 'g' => rights >>> 3
  | 'o' => rights
  | 'X' => if rights &&& 0o111 ≠ 0 then 1 else 0
  | _ => 0

/-- The rights after changes that are told by letters, if they can be read. -/
def changedRights (before : Nat) : Nat → Nat → Nat → Text → Option Nat
  | 0, _, _, _ => none
  | _ + 1, _, rights, [] => some rights
  | fuel + 1, whose, rights, t =>
    let who := t.takeWhile fun c => "augo".toList.contains c
    let whose := who.foldl (fun n c => n ||| whoseBits c) whose
    let whose := if whose = 0 then 0o111 else whose
    match t.drop who.length with
    | op :: t =>
      if op = '=' || op = '+' || op = '-' then
        let what := t.takeWhile fun c => "rwxugoXs".toList.contains c
        let t := t.drop what.length
        let bits := ((what.foldl (fun n c => n ||| bitsOf before c) 0) &&& 7) * whose
        let rights := match op with
          | '-' => rights - (rights &&& bits)
          | '=' => bits ||| (rights - (rights &&& (whose * 7)))
          | _ => rights ||| bits
        match t with
        | [] => some rights
        | ',' :: t => changedRights before fuel 0 rights t
        | c :: _ =>
          if c = '=' || c = '+' || c = '-' then changedRights before fuel whose rights t else none
      else none
    | [] => none

def umask (args : List Text) : Act Unit := do
  let (os, args) ← options ['S'] args
  let mask := (← strand).mask
  setStatus 0
  match args with
  | [] => print ((if os.isEmpty then octal4 mask else rightsShown mask) ++ ['\n'])
  | t :: _ =>
    if (t.head?).any Char.isDigit then
      if t.all (isDigitOf 8) then
        changeStrand fun s => { s with mask := valueIn 8 t % 512 }
      else illegalNumber t
    else
      match changedRights (511 - mask) (t.length + 1) 0 (511 - mask) t with
      | some rights => changeStrand fun s => { s with mask := 511 - rights % 512 }
      | none => fail ("Illegal mode: ".toList ++ t)

end RemoteInterpreter.Shell.Builtin
