import RemoteInterpreter.Shell.Pattern

/-!
# Fields

How a word that was expanded falls apart. What came out of a value or a command is cut
at separators: a separator that is no blank ends a field, and a run of blanks does. All
parameters in quotes are cut only between each other.
-/

namespace RemoteInterpreter.Shell

/-- Where a segment may be cut. -/
inductive Cutting where
  | nowhere
  | atSeparators
  /-- Between the parameters. -/
  | atBounds
  deriving DecidableEq, Repr

structure Segment where
  cutting : Cutting
  marks : List Mark

/-- Stands between parameters, and where a quote stood. No value contains it. -/
def bound : Char := '\x00'

def quoteMark : Segment := ⟨.nowhere, [(bound, true)]⟩

def blanks : Text := [' ', '\t', '\n']

/-- Fields under construction. -/
structure Fields where
  /-- What is complete, the latest first. -/
  complete : List (List Mark)
  /-- The current field, backward. -/
  current : List Mark
  /-- A blank has just ended a field. -/
  blank : Bool
  /-- How many more fields are wanted, if that is limited. -/
  wanted : Option Nat
  /-- The current field without the separators at its end, if those may be dropped. -/
  short : Option (List Mark)
  /-- The last segment that could be cut had bounds. -/
  bounded : Bool

namespace Fields

def cut (f : Fields) : Fields := { f with complete := f.current :: f.complete, current := [] }

/-- A character when no more fields are wanted: it belongs to the last one. -/
def stretch (isSeparator isSpace : Bool) (m : Mark) (f : Fields) : Fields :=
  let longer := { f with current := m :: f.current }
  if isSpace then { longer with short := some (f.short.getD f.current) }
  else
    { longer with short := if isSeparator && f.blank then f.short else none, blank := false }

/-- A character of a segment that may be cut. -/
def step (separators : Text) (afterBounds bounds : Bool) (f : Fields) (m : Mark) : Fields :=
  let isSeparator := m.1 == bound || (!bounds && separators.contains m.1)
  let isSpace := isSeparator && (m.1 == bound || blanks.contains m.1)
  if f.wanted = some 0 then f.stretch isSeparator isSpace m
  else if f.blank && isSpace then { f with current := [] }
  else if f.blank && isSeparator then { f with current := [], blank := false }
  else
    let f := if f.blank then { f with current := [] } else f
    if isSeparator then
      let f := if afterBounds || bounds then f else { f with blank := isSpace }
      if f.current.isEmpty && f.blank then { f with blank := false }
      else
        match f.wanted with
        | some 1 => { f with wanted := some 0, short := some f.current, current := m :: f.current }
        | wanted => { f.cut with wanted := wanted.map (· - 1) }
    else { f with current := m :: f.current, blank := false }

def segment (separators : Text) (f : Fields) (s : Segment) : Fields :=
  match s.cutting with
  | .nowhere => { f with current := s.marks.reverse ++ f.current }
  | .atSeparators =>
    { s.marks.foldl (step separators f.bounded false) { f with blank := false } with
      bounded := false }
  | .atBounds =>
    { s.marks.foldl (step separators f.bounded true) { f with blank := false } with
      bounded := true }

def finish (f : Fields) : List (List Mark) :=
  let last := f.short.getD f.current
  let all := if f.bounded || !last.isEmpty then last :: f.complete else f.complete
  all.reverse.map List.reverse

end Fields

/-- The fields of a word, no more than are wanted. -/
def breakUp (separators : Text) (wanted : Option Nat) (segments : List Segment) :
    List (List Mark) :=
  (segments.foldl (Fields.segment separators) ⟨[], [], false, wanted, none, false⟩).finish

/-- The text of a field, without the marks that kept it together. -/
def unmarked (marks : List Mark) : Text := (marks.map Prod.fst).filter (· ≠ bound)

/-- A whole word as one field. -/
def wholeWord (segments : List Segment) : List Mark :=
  (segments.flatMap Segment.marks).filter fun m => m.1 ≠ bound

end RemoteInterpreter.Shell
