import RemoteInterpreter.Shell.Tool.Desk
import RemoteInterpreter.Shell.Tool.Options
import RemoteInterpreter.Shell.Tool.Quoting

/-!
# The inside of tools

What tools read: the standard input and files, block by block and line by line. An
operand that cannot be read is complained of, and the others are read nevertheless.
-/

namespace RemoteInterpreter.Shell.Tool

/-! Arguments -/

/-- The options of a tool, and its other words. It comes to its end if they cannot be read. -/
def optionsOr (status : Nat) (called : Text) (all : List Known) (everywhere : Bool)
    (args : List Text) : Act (List Given × List Text) := do
  match parse all everywhere args with
  | .ok r => return r
  | .error why => misuse called why status

def quoted (t : Text) : Act Text := do return quote (isUnicode (← strand)) t

def quotedFully (t : Text) : Act Text := do return quoteFully (isUnicode (← strand)) t

def quotedName (t : Text) : Act Text := do return quoteName (isUnicode (← strand)) t

/-! Reading -/

/-- Something that is read. -/
structure Intake where
  source : Descriptor
  /-- What was read from it and not used. -/
  ahead : Text
  /-- The end was seen. -/
  ended : Bool

def Intake.of (d : Descriptor) : Intake := ⟨d, [], false⟩

/-- How much is read at a time. -/
def blockLength : Nat := 65536

/-- What an operand names that is read: a sign for the standard input, or a path. -/
def openOperand (path : Text) : Act (Except Filesystem.Fault Descriptor) := do
  if path = ['-'] then
    match (← strand).descriptor? 0 with
    | some d => return .ok d
    | none => return .error .closed
  else openForReading path

/-- Why something that was opened cannot be read. -/
def readFault? (d : Descriptor) : Act (Option Filesystem.Fault) := do
  match ← isReadable d with
  | .ok true => return none
  | .ok false => return some .closed
  | .error e => return some e

namespace Intake

/-- More is read. -/
def fill (i : Intake) : Act Intake := do
  let t ← readBlock i.source blockLength
  return if t.isEmpty then { i with ended := true } else { i with ahead := i.ahead ++ t }

/-- Up to a mark and with it, if there is one. At the end of all there is nothing. -/
def upTo (mark : Char) (i : Intake) : Act (Option Text × Intake) := do
  iterate (([] : List Text), i) fun (before, i) => do
    let t := i.ahead.takeWhile (· ≠ mark)
    match i.ahead.drop t.length with
    | c :: rest =>
      let l := t ++ [c]
      let l := if before.isEmpty then l else (l :: before).reverse.flatten
      return .ok (some l, { i with ahead := rest })
    | [] =>
      let before := if t.isEmpty then before else t :: before
      if i.ended then
        let l := before.reverse.flatten
        return .ok (if l.isEmpty then none else some l, { i with ahead := [] })
      else return .error (before, ← Intake.fill { i with ahead := [] })

/-- All that is left. -/
def whole (i : Intake) : Act Text := do
  iterate [i.ahead] fun before => do
    let t ← readBlock i.source blockLength
    if t.isEmpty then return .ok before.reverse.flatten else return .error (t :: before)

/-- What comes is handed on block by block. -/
def eachBlock {σ : Type} (f : σ → Text → Act σ) (d : Descriptor) (x : σ) : Act σ := do
  iterate x fun x => do
    let t ← readBlock d blockLength
    if t.isEmpty then return .ok x else return .error (← f x t)

/-- What was read of a file and not used may be read again. -/
def giveBack (i : Intake) : Act Unit := do
  match i.source with
  | .file n =>
    changeWorld fun w =>
      { w with opened := w.opened.modify n fun o =>
          { o with offset := o.offset - i.ahead.length, ahead := none } }
  | _ => pure ()

end Intake

/-- A line without its end, and whether there was one. -/
def withoutMark (mark : Char) (l : Text) : Text × Bool :=
  if l.getLast? = some mark then (l.dropLast, true) else (l, false)

/-- The pieces that end in a mark, without it; what stands behind the last one is one, too. -/
def piecesOf (mark : Char) (t : Text) : List Text :=
  let pieces := Text.splitAt mark t
  if pieces.getLast? = some [] then pieces.dropLast else pieces

/-- Without operands the standard input is read. -/
def orInput (operands : List Text) : List Text := if operands.isEmpty then [['-']] else operands

/-- Something went wrong, but the tool goes on. -/
def lack (called message : Text) (status : Nat) : Act Unit := do
  warn called message
  changeStrand fun s => { s with status := max status s.status }

def complainOf (called path : Text) (e : Filesystem.Fault) : Act Unit := do
  lack called ((← quotedName path) ++ ": ".toList ++ e.message.toList) 1

/-- Does something with an operand that can be read. -/
def withOperand {α : Type} (complain : Text → Filesystem.Fault → Act Unit) (path : Text) (other : α)
    (f : Descriptor → Act α) : Act α := do
  match ← openOperand path with
  | .error e =>
    complain path e
    return other
  | .ok d =>
    match ← readFault? d with
    | some e =>
      complain path e
      return other
    | none => f d

/-- Does something with one line after the other, each with its end if it has one. -/
def overLines {σ : Type} (mark : Char) (f : σ → Text → Act σ) (d : Descriptor) (x : σ) : Act σ := do
  iterate (Intake.of d, x) fun (i, x) => do
    match ← i.upTo mark with
    | (none, _) => return .ok x
    | (some l, i) => return .error (i, ← f x l)

/-- The same for the lines of all operands. -/
def overAllLines {σ : Type} (called : Text) (mark : Char) (operands : List Text)
    (f : σ → Text → Act σ) (x : σ) : Act σ :=
  (orInput operands).foldlM (fun x path =>
    withOperand (complainOf called) path x fun d => overLines mark f d x) x

/-- All that the operands hold. -/
def allOf (called : Text) (operands : List Text) : Act Text := do
  let parts ← (orInput operands).mapM fun path =>
    withOperand (complainOf called) path [] fun d => (Intake.of d).whole
  return parts.flatten

/-! Numbers -/

/-- A number with a suffix that multiplies it, if it can be read. Of numbers that are too great
the greatest is taken. -/
def scaled? (suffixes : List (String × Nat)) (t : Text) : Option Nat :=
  let digits := t.takeWhile Char.isDigit
  let behind := t.drop digits.length
  if digits.isEmpty && behind.isEmpty then none
  else
    let n := if digits.isEmpty then 1 else Numeral.value digits
    let all := ("", 1) :: suffixes
    (all.find? fun s => s.1.toList = behind).map fun s => min (n * s.2) (2 ^ 64 - 1)

/-- Suffixes for powers of 1024, and for powers of 1000. -/
def powerSuffixes : List (String × Nat) :=
  (["K", "M", "G", "T", "P", "E", "Z", "Y"].zipIdx 1).flatMap fun (s, i) =>
    [(s, 1024 ^ i), (s ++ "iB", 1024 ^ i), (s ++ "B", 1000 ^ i)]

/-- The suffixes of sizes. -/
def sizeSuffixes : List (String × Nat) :=
  ("b", 512) :: ("k", 1024) :: ("kB", 1000) :: ("m", 2 ^ 20) :: powerSuffixes

def padLeft (width : Nat) (t : Text) : Text := List.replicate (width - t.length) ' ' ++ t

def padRight (width : Nat) (t : Text) : Text := t ++ List.replicate (width - t.length) ' '

end RemoteInterpreter.Shell.Tool
