import RemoteInterpreter.Shell.Pattern
import RemoteInterpreter.Shell.Tool.Intake

/-!
# Replacing characters

The tool that replaces, deletes and squeezes characters. Its sets are sequences of
characters, ranges, classes and repeated characters.
-/

namespace RemoteInterpreter.Shell.Tool

namespace Alphabet

/-- An item of a set. -/
inductive Item where
  | one (c : Char)
  | range (low high : Char)
  | members (name : Text)
  | equal (c : Char)
  /-- A character so often; without a number as often as needed. -/
  | repeated (c : Char) (count : Option Nat)
  deriving DecidableEq

/-- A character, and whether it was escaped. -/
abbrev Sign := Char × Bool

def octals (t : Text) : Text := t.takeWhile fun c => '0' ≤ c && c ≤ '7'

/-- A set without its escapes, and what is to be said about them. -/
def unescaped : Nat → Text → List Sign × List Text
  | 0, _ | _ + 1, [] => ([], [])
  | fuel + 1, '\\' :: rest =>
    let also (c : Char) (rest : Text) : List Sign × List Text :=
      let (us, ws) := unescaped fuel rest
      ((c, true) :: us, ws)
    match rest with
    | [] =>
      ([('\\', false)], ["warning: an unescaped backslash at end of string is not portable".toList])
    | c :: more =>
      match c with
      | 'a' => also '\x07' more
      | 'b' => also '\x08' more
      | 'f' => also '\x0c' more
      | 'n' => also '\n' more
      | 'r' => also '\r' more
      | 't' => also '\t' more
      | 'v' => also '\x0b' more
      | c =>
        let digits := octals (rest.take 3)
        if digits.isEmpty then also c more
        else
          let value := digits.foldl (fun n d => 8 * n + (d.toNat - '0'.toNat)) 0
          if value < 256 then also (Char.ofNat value) (rest.drop digits.length)
          else
            let short := digits.take 2
            let value := short.foldl (fun n d => 8 * n + (d.toNat - '0'.toNat)) 0
            let (us, ws) := also (Char.ofNat value) (rest.drop 2)
            (us, ("warning: the ambiguous octal escape \\".toList ++ digits ++
              " is being\n\tinterpreted as the 2-byte sequence \\0".toList ++ short ++
              ", ".toList ++ digits.drop 2) :: ws)
  | fuel + 1, c :: rest =>
    let (us, ws) := unescaped fuel rest
    ((c, false) :: us, ws)

/-- What stands before a sign and a closing bracket, and what stands behind them. -/
def upTo? (sign : Char) : List Sign → Option (Text × List Sign)
  | (c, b) :: (d, b') :: rest =>
    if c = sign && !b && d = ']' && !b' then some ([], rest)
    else (upTo? sign ((d, b') :: rest)).map fun (t, rest) => (c :: t, rest)
  | _ => none

/-- The count of a repetition and what stands behind it, if it is one. -/
def repetition? (us : List Sign) : Option (Text × List Sign) :=
  match us with
  | ('*', false) :: rest =>
    let inner := rest.takeWhile fun (c, b) => !b && c ≠ ']'
    match rest.drop inner.length with
    | (']', false) :: rest => some (inner.map Prod.fst, rest)
    | _ => none
  | _ => none

def classNames : List String :=
  ["alnum", "alpha", "blank", "cntrl", "digit", "graph", "lower", "print", "punct", "space",
   "upper", "xdigit"]

/-- A character as it is shown in messages. -/
def shown (c : Char) : Text := if ' ' ≤ c && c ≤ '~' then [c] else octal c

/-- The items of a set, or what is wrong with it. -/
def items (unicode : Bool) : Nat → List Sign → Except Text (List Item)
  | 0, _ | _ + 1, [] => return []
  | fuel + 1, (c, escaped) :: rest => do
    let also (i : Item) (rest : List Sign) : Except Text (List Item) := do
      return i :: (← items unicode fuel rest)
    let plain : Except Text (List Item) := do
      match rest with
      | ('-', false) :: (high, _) :: behind =>
        if high < c then
          throw ("range-endpoints of '".toList ++ shown c ++ '-' :: shown high ++
            "' are in reverse collating sequence order".toList)
        else also (.range c high) behind
      | rest => also (.one c) rest
    let bracketed : Except Text (List Item) := do
      match rest with
      | (d, _) :: more =>
        match repetition? more with
        | none => plain
        | some (digits, behind) =>
          if digits.isEmpty then also (.repeated d none) behind
          else
            let isOctal := digits.head? = some '0'
            let fits := if isOctal then (octals digits).length = digits.length
              else digits.all Char.isDigit
            if !fits then
              throw ("invalid repeat count ".toList ++ quote unicode digits ++
                " in [c*n] construct".toList)
            else
              let n := if isOctal then
                digits.foldl (fun n d => 8 * n + (d.toNat - '0'.toNat)) 0 else Numeral.value digits
              also (.repeated d (if n = 0 then none else some n)) behind
      | [] => plain
    if c ≠ '[' || escaped then plain
    else
      match rest with
      | (sign, false) :: more =>
        if sign = ':' || sign = '=' then
          match upTo? sign more with
          | none => bracketed
          | some (name, behind) =>
            if name.isEmpty && sign = ':' then
              throw "missing character class name '[::]'".toList
            else if name.isEmpty then
              throw "missing equivalence class character '[==]'".toList
            else if sign = ':' then
              if classNames.contains name.str then also (.members name) behind
              else if (repetition? more).isSome then bracketed
              else throw ("invalid character class ".toList ++ quote unicode name)
            else
              match name with
              | [d] => also (.equal d) behind
              | name =>
                if (repetition? more).isSome then bracketed
                else
                  throw (name ++
                    ": equivalence class operand must be a single character".toList)
        else bracketed
      | _ => bracketed

def octets : List Char := (List.range 256).map Char.ofNat

def Item.chars (count : Nat) : Item → List Char
  | .one c | .equal c => [c]
  | .range low high =>
    (List.range (high.toNat + 1 - low.toNat)).map fun i => Char.ofNat (low.toNat + i)
  | .members name => octets.filter (inClass name.str)
  | .repeated c none => List.replicate count c
  | .repeated c (some n) => List.replicate n c

/-- The characters of a set, if so many are needed. -/
def charsOf (needed : Nat) (is : List Item) : List Char :=
  let known := (is.map fun i => (i.chars 0).length).sum
  is.flatMap (Item.chars (needed - known))

def Item.isClass : Item → Bool
  | .members _ => true
  | _ => false

/-- A class of letters of one case. -/
def Item.isCase : Item → Bool
  | .members name => name = "upper".toList || name = "lower".toList
  | _ => false

def Item.isOpen : Item → Bool
  | .repeated _ none => true
  | _ => false

def Item.isEqual : Item → Bool
  | .equal _ => true
  | _ => false

/-- Both sets item by item, as far as letters change their case: pairs of characters, or nothing if
classes do not stand at the same places. The flags tell whether an item begins in each set. -/
def aligned : Nat → (Bool × Option Item × List Char × List Item) →
    (Bool × Option Item × List Char × List Item) → Option (List (Char × Char))
  | 0, _, _ => some []
  | fuel + 1, (_, _, [], i :: is), b => aligned fuel (true, some i, i.chars 0, is) b
  | fuel + 1, a, (_, _, [], i :: is) => aligned fuel a (true, some i, i.chars 0, is)
  | _ + 1, (_, _, [], []), (isNew, i, _, _) =>
    if isNew && i.any Item.isCase then none else some []
  | _ + 1, _, (_, _, [], []) => some []
  | fuel + 1, (isNew, i, c :: cs, is), (isNew', i', c' :: cs', is') =>
    let isCase := isNew && i.any Item.isCase
    if isNew' && i'.any Item.isCase then
      if !isCase then none
      else
        let pairs : List (Char × Char) :=
          match i, i' with
          | some (.members a), some (.members b) =>
            if a = b then []
            else
              (c :: cs).map fun c =>
                (c, if b = "upper".toList then c.toUpper else c.toLower)
          | _, _ => []
        (aligned fuel (false, none, [], is) (false, none, [], is')).map (pairs ++ ·)
    else
      (aligned fuel (false, i, cs, is) (false, i', cs', is')).map ((c, c') :: ·)

/-- What characters become. -/
abbrev Table := Array Char

def Table.same : Table := octets.toArray

def Table.with (t : Table) (pairs : List (Char × Char)) : Table :=
  pairs.foldl (fun t (a, b) => t.setIfInBounds a.toNat b) t

def Table.apply (t : Table) (c : Char) : Char := t.getD c.toNat c

/-- Which octets are in a set. -/
def marks (cs : List Char) : Array Bool :=
  cs.foldl (fun a c => a.setIfInBounds c.toNat true) (Array.replicate 256 false)

/-- What sets for replacing become, or what is wrong with them. -/
def table (complements truncates : Bool) (source target : List Item) : Except Text Table := do
  let first := charsOf 0 source
  let inFirst := marks first
  let others := octets.filter fun c => !inFirst.getD c.toNat false
  let size := if complements then others.length else first.length
  if 1 < (target.filter Item.isOpen).length then
    throw "only one [c*] repeat construct may appear in string2".toList
  if target.any Item.isEqual then
    throw "[=c=] expressions may not appear in string2 when translating".toList
  if target.any fun i => i.isClass && !i.isCase then
    throw ("when translating, the only character classes that may appear in\n" ++
      "string2 are 'upper' and 'lower'").toList
  let second := charsOf size target
  let target := target.map fun i =>
    if i.isOpen then
      match i with
      | .repeated c _ => .repeated c (some (size - (charsOf 0 target).length))
      | i => i
    else i
  let pairs ← if complements then pure [] else
    match aligned (first.length + second.length + source.length + target.length + 600)
        (false, none, [], source) (false, none, [], target) with
    | some ps => pure ps
    | none => throw "misaligned [:upper:] and/or [:lower:] construct".toList
  let mustExtend := second.length < size && !truncates
  if mustExtend && second.isEmpty then
    throw "when not truncating set1, string2 must be non-empty".toList
  if mustExtend && target.getLast?.any Item.isClass then
    throw ("when translating with string1 longer than string2,\n" ++
      "the latter string must not end with a character class").toList
  let extended := if mustExtend then
    second ++ List.replicate (size - second.length) (second.getLastD ' ') else second
  if complements then
    if source.any Item.isClass &&
        !(extended.length = size && extended.all fun c => some c = extended.head?) then
      throw ("when translating with complemented character classes,\n" ++
        "string2 must map all characters in the domain to one").toList
    return Table.same.with (others.zip extended)
  else
    let beyond := if mustExtend then
      (first.drop second.length).map fun c => (c, second.getLastD ' ') else []
    return Table.same.with (pairs ++ beyond)

/-- Of a run of equal characters one is left. The last character before is told. -/
def squeezed (set : Array Bool) (last : Option Char) (t : Text) : Text × Option Char :=
  let (out, last) := t.foldl (fun ((out, last) : Text × Option Char) c =>
    if last = some c && set.getD c.toNat false then (out, last) else (c :: out, some c)) ([], last)
  (out.reverse, last)

end Alphabet

open Alphabet in
def tr (called : Text) (args : List Text) : Act Unit := do
  let all := known [('c', "complement"), ('C', ""), ('d', "delete"), ('s', "squeeze-repeats"),
    ('t', "truncate-set1")] []
  let (os, operands) ← optionsOr 1 called all false args
  let deletes := has os 'd'
  let squeezes := has os 's'
  let complements := has os 'c' || has os 'C'
  let least := if deletes == squeezes then 2 else 1
  let most := if deletes && !squeezes then 1 else 2
  match operands with
  | [] => misuse called "missing operand".toList 1
  | operands =>
    if operands.length < least then
      let why := if squeezes
        then "Two strings must be given when both deleting and squeezing repeats."
        else "Two strings must be given when translating."
      let after ← quoted (operands.getLastD [])
      misuse called ("missing operand after ".toList ++ after ++ '\n' :: why.toList) 1
    match operands[most]? with
    | some t =>
      let why := if operands.length = 2
        then "\nOnly one string may be given when deleting without squeezing repeats." else ""
      misuse called ("extra operand ".toList ++ (← quoted t) ++ why.toList) 1
    | none => pure ()
  let unicode := isUnicode (← strand)
  let sets ← operands.mapM fun t => do
    let (us, warnings) := unescaped (t.length + 1) t
    for w in warnings do
      warn called w
    match items unicode (us.length + 1) us with
    | .ok is => return is
    | .error why => die called why 1
  let source := sets.headD []
  if source.any Item.isOpen then
    die called "the [c*] repeat construct may not appear in string1".toList 1
  let first := charsOf 0 source
  let inFirst := (marks first).map (· != complements)
  let d := ((← strand).descriptor? 0).getD .nothing
  match sets with
  | [_, target] =>
    if deletes then
      if target.any Item.isOpen then
        die called "the [c*] construct may appear in string2 only when translating".toList 1
      let inSecond := marks (charsOf 0 target)
      let _ ← Intake.eachBlock (fun last t => do
        let (t, last) := squeezed inSecond last (t.filter fun c => !inFirst.getD c.toNat false)
        put t
        return last) d none
    else
      match table complements (has os 't') source target with
      | .error why => die called why 1
      | .ok table =>
        let set := marks (charsOf (if complements then 256 else first.length) target)
        let _ ← Intake.eachBlock (fun last t => do
          let t := t.map table.apply
          let (t, last) := if squeezes then squeezed set last t else (t, none)
          put t
          return last) d none
  | _ =>
    let _ ← Intake.eachBlock (fun last t => do
      let (t, last) := if deletes then (t.filter fun c => !inFirst.getD c.toNat false, none)
        else squeezed inFirst last t
      put t
      return last) d none

end RemoteInterpreter.Shell.Tool
