import RemoteInterpreter.Shell.Tool.Awk.Table

/-!
# Values as texts and numbers

What a value is as a number and as a text, how two values are ordered, and formats that
are filled in with values.
-/

namespace RemoteInterpreter.Shell.Tool.Awk

/-- Why a format cannot be filled in. -/
inductive FormatFault where
  | tooFew
  /-- The conversion of this number makes no sense. -/
  | improper (n : Nat)

def Value.amount : Value → Binary64
  | .nothing => Amount.zero
  | .number x => x
  | .text t | .input t => Amount.ofText t

/-- The number of a value that counts as one. -/
def Value.number? : Value → Option Binary64
  | .nothing => some Amount.zero
  | .number x => some x
  | .text _ => none
  | .input t => if Amount.looksNumeric t then some (Amount.ofText t) else none

def Value.isTrue : Value → Bool
  | .nothing => false
  | .number x => !x.isZero
  | .text t => !t.isEmpty
  | .input t => if Amount.looksNumeric t then !(Amount.ofText t).isZero else !t.isEmpty

namespace Format

/-- The text of a number in a format that is used for numbers. -/
def simple (x : Binary64) : Text :=
  Layout.float ⟨false, false, false, false, false, 0, none⟩ 'g' x

def isFlag (c : Char) : Bool := c == '-' || c == '+' || c == ' ' || c == '#' || c == '0'

/-- A width or a precision, and what is left of the format and of the values. -/
def amount (t : Text) (args : List Value) : Option Int × Text × List Value :=
  match t with
  | '*' :: rest =>
    let n := Amount.clipped (-(2 ^ 31)) (2 ^ 31 - 1) ((args.headD .nothing).amount)
    (some n, rest, args.tail)
  | t =>
    let digits := t.takeWhile Char.isDigit
    (if digits.isEmpty then none else some (Numeral.value digits : Nat), t.drop digits.length, args)

/-- A character: of a number the one that it stands for, of a text the first one. -/
def character (v : Value) : Text :=
  let ofNumber (x : Binary64) : Text :=
    [octet (Amount.clipped (-(2 ^ 31)) (2 ^ 31 - 1) x % 256).toNat]
  let first (t : Text) : Text := [t.headD '\x00']
  match v with
  | .nothing => ['\x00']
  | .number x => ofNumber x
  | .text t => first t
  | .input t => if Amount.looksNumeric t then ofNumber (Amount.ofText t) else first t

/-- Fills in a format. What comes before a fault is there nevertheless. -/
def fill (show_ : Value → Text) : Nat → Nat → Text → List Value → List Text →
    List Text × Option FormatFault
  | 0, _, _, _, before => (before, none)
  | fuel + 1, n, t, args, before =>
    match t with
    | [] => (before, none)
    | '%' :: '%' :: rest => fill show_ fuel n rest args (['%'] :: before)
    | '%' :: rest =>
      let flags := rest.takeWhile isFlag
      let (width, rest, args) := amount (rest.drop flags.length) args
      let (precision, rest, args) := match rest with
        | '.' :: rest =>
          let (p, rest, args) := amount rest args
          (some (p.getD 0), rest, args)
        | rest => (none, rest, args)
      let rest := rest.dropWhile fun c => c = 'l' || c = 'h' || c = 'q'
      let w := width.getD 0
      let l : Layout := ⟨flags.contains '#', flags.contains '-' || w < 0, flags.contains '+',
        flags.contains ' ', flags.contains '0', w.natAbs,
        precision.bind fun p => if p < 0 then none else some p.toNat⟩
      match args, rest with
      | [], _ => (before, some .tooFew)
      | _, [] => (before, some (.improper (n + 1)))
      | v :: args, c :: rest =>
        let shown? : Option Text :=
          if c = 's' then some (l.text (show_ v))
          else if c = 'c' then some (l.padded (character v))
          else if c = 'd' || c = 'i' then some (l.integer (Amount.signed v.amount))
          else if c = 'o' then some (l.natural 8 false (Amount.unsigned v.amount))
          else if c = 'x' then some (l.natural 16 false (Amount.unsigned v.amount))
          else if c = 'X' then some (l.natural 16 true (Amount.unsigned v.amount))
          else if c = 'u' then some (l.natural 10 false (Amount.unsigned v.amount))
          else if "eEfgG".toList.contains c then some (l.float c v.amount)
          else none
        match shown? with
        | some u => fill show_ fuel (n + 1) rest args (u :: before)
        | none => (before, some (.improper (n + 1)))
    | t =>
      let plain := t.takeWhile (· ≠ '%')
      fill show_ fuel n (t.drop plain.length) args (plain :: before)

def filled (show_ : Value → Text) (format : Text) (args : List Value) :
    Text × Option FormatFault :=
  let (parts, fault) := fill show_ (format.length + 1) 0 format args []
  (parts.reverse.flatten, fault)

end Format

/-- The text of a number. Those that are whole need no format. -/
def numberText (format : Text) (x : Binary64) : Text :=
  match Amount.whole? x with
  | some n => Numeral.writeInt n
  | none =>
    if format = "%.6g".toList then Format.simple x
    else (Format.filled (fun _ => []) format [.number x]).1

def Value.show (format : Text) : Value → Text
  | .nothing => []
  | .number x => numberText format x
  | .text t | .input t => t

/-- How two values are ordered: as numbers if both count as numbers, and as texts otherwise. -/
def Value.compare (format : Text) (a b : Value) : Ordering :=
  match a.number?, b.number? with
  | some x, some y => Amount.compare x y
  | _, _ =>
    let (t, u) := (a.show format, b.show format)
    if t = u then .eq else if t < u then .lt else .gt

/-- The key of an element. -/
def Value.key (format : Text) : Value → Key
  | .number x =>
    match Amount.integer? x, Amount.whole? x with
    | some n, some _ => .integer n
    | _, _ => .text (numberText format x)
  | v => .text (v.show format)

end RemoteInterpreter.Shell.Tool.Awk
