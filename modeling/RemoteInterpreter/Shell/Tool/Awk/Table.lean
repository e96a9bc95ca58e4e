import RemoteInterpreter.Shell.Tool.Awk.Amount

/-!
# Tables

The arrays of scripts. Their elements are found by texts or by integers, and are handed out
row by row of a table whose rows are chosen by these keys. What was looked up last stands
first in its row. A table is made when it is needed: a text that was split is a plain row
of parts before.
-/

namespace RemoteInterpreter.Shell.Tool.Awk

/-- A value of a script. -/
inductive Value where
  | nothing
  | number (x : Binary64)
  | text (t : Text)
  /-- A text from outside, which counts as a number if it is written like one. -/
  | input (t : Text)
  deriving Inhabited

inductive Key where
  | text (t : Text)
  | integer (n : Int)

/-- An element of a table. -/
structure Element where
  /-- Its key as a text, once that was needed. -/
  name : Option Text
  /-- Its key as an integer, if it was found by one. -/
  number : Option Int
  value : Value
  deriving Inhabited

/-- A number that chooses the row of a text. -/
def hash (t : Text) : Nat :=
  (t.foldl (fun (h : UInt32) c => (h ^^^ c.val) * 16777619) 2166136261).toNat

/-- Rows of elements. -/
structure Rows where
  elements : Array Element
  size : Nat
  /-- By texts, if there are any. -/
  texts : Option (Array (List Nat))
  integers : Array (List Nat)

namespace Rows

/-- How many rows there are at the beginning. -/
def leastRows : Nat := 64

/-- How many elements there are for each row before there are more rows. -/
def fill : Nat := 12

def empty : Rows := ⟨#[], 0, none, .replicate leastRows []⟩

def width (r : Rows) : Nat := r.integers.size

def rowOfText (r : Rows) (t : Text) : Nat := hash t % r.width

def rowOfInteger (r : Rows) (n : Int) : Nat := (n % r.width).toNat

def element (r : Rows) (k : Nat) : Element := (r.elements[k]?).getD default

/-- All elements are to be found by texts. -/
def withTexts (r : Rows) : Rows :=
  match r.texts with
  | some _ => r
  | none =>
    r.integers.foldl (fun r row => row.foldl (fun (r : Rows) k =>
        match (r.element k).number with
        | none => r
        | some n =>
          let t := Numeral.writeInt n
          { r with
            elements := r.elements.modify k fun e => { e with name := some t }
            texts := r.texts.map fun rows => rows.modify (hash t % rows.size) (k :: ·) }) r)
      { r with texts := some (.replicate r.width []) }

/-- Twice as many rows. Elements stay in their order. -/
def widened (r : Rows) : Rows :=
  let split (choose : Nat → Nat) (rows : Array (List Nat)) : Array (List Nat) :=
    let part (moves : Bool) (i : Nat) (row : List Nat) : List Nat :=
      row.filter fun k => (choose k % (2 * rows.size) != i) == moves
    rows.mapIdx (part false) ++ rows.mapIdx (part true)
  { r with
    texts := r.texts.map (split fun k => hash ((r.element k).name.getD []))
    integers := split (fun k => ((r.element k).number.getD 0 % (2 * r.width)).toNat) r.integers }

/-- A new element. -/
def add (e : Element) (r : Rows) : Nat × Rows :=
  let k := r.elements.size
  let r := { r with elements := r.elements.push e, size := r.size + 1 }
  (k, if fill * r.width < r.size then r.widened else r)

/-- Finds an element by a text, or makes it. -/
def findText (creates : Bool) (t : Text) (r : Rows) : Option Nat × Rows :=
  let r := r.withTexts
  let row := (r.texts.bind (·[r.rowOfText t]?)).getD []
  let front (k : Nat) (r : Rows) : Rows :=
    { r with texts := r.texts.map (·.modify (r.rowOfText t) fun row => k :: row.filter (· != k)) }
  match row.find? fun k => (r.element k).name == some t with
  | some k => (some k, front k r)
  | none =>
    if creates then
      let (k, r) := r.add ⟨some t, none, .nothing⟩
      (some k, front k r)
    else (none, r)

/-- Finds an element by an integer, or makes it. -/
def findInteger (creates : Bool) (n : Int) (r : Rows) : Option Nat × Rows :=
  let row := (r.integers[r.rowOfInteger n]?).getD []
  let front (k : Nat) (r : Rows) : Rows :=
    { r with integers := r.integers.modify (r.rowOfInteger n) fun row => k :: row.filter (· != k) }
  let known (k : Nat) (r : Rows) : Rows :=
    front k { r with elements := r.elements.modify k fun e => { e with number := some n } }
  match row.find? fun k => (r.element k).number == some n with
  | some k => (some k, front k r)
  | none =>
    if r.texts.isSome then
      match r.findText creates (Numeral.writeInt n) with
      | (some k, r) => (some k, known k r)
      | (none, r) => (none, r)
    else if creates then
      let (k, r) := r.add ⟨none, some n, .nothing⟩
      (some k, front k r)
    else (none, r)

def find (creates : Bool) : Key → Rows → Option Nat × Rows
  | .text t, r => r.findText creates t
  | .integer n, r => r.findInteger creates n

def remove (key : Key) (r : Rows) : Rows :=
  match r.find false key with
  | (none, r) => r
  | (some k, r) =>
    if r.size ≤ 1 then empty
    else
      let without (i : Nat) (rows : Array (List Nat)) : Array (List Nat) :=
        rows.modify i fun row => row.filter (· != k)
      let e := r.element k
      { r with
        size := r.size - 1
        texts := match e.name with
          | some t => r.texts.map (without (r.rowOfText t))
          | none => r.texts
        integers := match e.number with
          | some n => without (r.rowOfInteger n) r.integers
          | none => r.integers }

/-- As many rows as so many elements need. -/
def widthFor (count : Nat) : Nat → Nat → Nat
  | 0, n => n
  | fuel + 1, n => if fill * n < count then widthFor count fuel (2 * n) else n

/-- The parts of a text that was split, counted from one. -/
def ofParts (parts : Array Value) : Rows :=
  let r : Rows := ⟨parts.mapIdx fun i v => ⟨none, some (i + 1 : Nat), v⟩, parts.size, none,
    .replicate (widthFor parts.size parts.size leastRows) []⟩
  (List.range parts.size).foldl (fun (r : Rows) k =>
    { r with integers := r.integers.modify (r.rowOfInteger (k + 1 : Nat)) (k :: ·) }) r

end Rows

inductive Table where
  | parts (values : Array Value)
  | rows (r : Rows)
  deriving Inhabited

namespace Table

def empty : Table := .parts #[]

def rowsOf : Table → Rows
  | .parts values => .ofParts values
  | .rows r => r

def size : Table → Nat
  | .parts values => values.size
  | .rows r => r.size

/-- The place of a key in a row of parts. -/
def partOf? (values : Array Value) : Key → Option Nat
  | .integer n => if 1 ≤ n ∧ n ≤ values.size then some (n - 1).toNat else none
  | .text _ => none

/-- Reads an element. It is made if it is not there. -/
def get (key : Key) (t : Table) : Value × Table :=
  let fromRows (r : Rows) : Value × Table :=
    match r.find true key with
    | (some k, r) => ((r.element k).value, .rows r)
    | (none, r) => (.nothing, .rows r)
  match t with
  | .parts values =>
    match partOf? values key with
    | some i => ((values[i]?).getD .nothing, t)
    | none => fromRows t.rowsOf
  | .rows r => fromRows r

def set (key : Key) (v : Value) (t : Table) : Table :=
  let inRows (r : Rows) : Table :=
    match r.find true key with
    | (some k, r) => .rows { r with elements := r.elements.modify k fun e => { e with value := v } }
    | (none, r) => .rows r
  match t with
  | .parts values =>
    match partOf? values key with
    | some i => .parts (values.setIfInBounds i v)
    | none => inRows (.ofParts values)
  | .rows r => inRows r

def has (key : Key) (t : Table) : Bool × Table :=
  match t with
  | .parts values =>
    match partOf? values key, key with
    | some _, _ => (true, t)
    | none, .integer _ => (false, t)
    | none, .text _ =>
      let (k, r) := t.rowsOf.find false key
      (k.isSome, .rows r)
  | .rows r =>
    let (k, r) := r.find false key
    (k.isSome, .rows r)

def remove (key : Key) (t : Table) : Table :=
  let r := t.rowsOf.remove key
  if r.size = 0 then empty else .rows r

/-- The keys in the order of the rows. -/
def keys (t : Table) : List Text × Table :=
  let r := t.rowsOf.withTexts
  let row (ks : List Nat) : List Text := ks.filterMap fun k => (r.element k).name
  (((r.texts.getD #[]).toList.map row).flatten, if t.size = 0 then t else .rows r)

end Table

end RemoteInterpreter.Shell.Tool.Awk
