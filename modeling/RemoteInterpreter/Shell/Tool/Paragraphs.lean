import RemoteInterpreter.Shell.Tool.Intake

/-!
# Paragraphs

A tool that fills the lines of paragraphs. Where lines end is chosen so that all of them
together cost the least: a line costs the more the further it is from the goal and from the
next line, and ends best behind a sentence.
-/

namespace RemoteInterpreter.Shell.Tool

namespace Paragraph

/-- A word of a paragraph, and how it can be broken off. -/
structure Word where
  text : Text
  /-- How many blanks stand behind it. -/
  space : Nat
  /-- It begins with an opening sign. -/
  opens : Bool
  /-- It ends with a sign that ends sentences. -/
  period : Bool
  /-- It ends with a sign of punctuation. -/
  punctuation : Bool
  /-- It ends a sentence. -/
  final : Bool
  deriving Inhabited

/-- The least cost from a word on, where the next line begins then, and how long the line is. -/
structure Plan where
  cost : Int
  next : Nat
  length : Nat
  deriving Inhabited

def square (n : Int) : Int := n * n

def shortCost (n : Int) : Int := square (10 * n)

def raggedCost (n : Int) : Int := shortCost n / 2

/-- What it costs to begin a line with a word. -/
def baseCost (ws : Array Word) (k : Nat) : Int :=
  let cost := square 70
  let cost :=
    if k = 0 then cost
    else
      let before := ws[k - 1]!
      if before.period then
        if before.final then cost - square 50 else cost + square 600
      else if before.punctuation then cost - square 40
      else if 1 < k && (ws[k - 2]!).final then
        cost + square 200 / ((before.text.length : Int) + 2)
      else cost
  let word := ws[k]!
  if word.opens then cost - square 40
  else if word.final then cost + square 150 / ((word.text.length : Int) + 2)
  else cost

/-- What a line of a length costs that ends before a word. -/
def lineCost (count : Nat) (goal : Nat) (plans : Array Plan) (next length : Nat) : Int :=
  if next = count then 0
  else
    let cost := shortCost ((goal : Int) - length)
    let plan := plans[next]!
    if plan.next ≠ count then cost + raggedCost ((length : Int) - plan.length) else cost

/-- The best line that begins with a word. -/
def best (ws : Array Word) (width goal : Nat) (plans : Array Plan) :
    Nat → Nat → Nat → Option Plan → Plan
  | 0, _, _, b => b.getD ⟨0, ws.size, 0⟩
  | fuel + 1, next, length, b =>
    let following : Int := if next = ws.size then 0 else (plans[next]!).cost
    let cost := lineCost ws.size goal plans next length + following
    let b : Plan := match b with
      | some p => if cost < p.cost then ⟨cost, next, length⟩ else p
      | none => ⟨cost, next, length⟩
    if next = ws.size then b
    else
      let length := length + (ws[next - 1]!).space + (ws[next]!).text.length
      if length < width then best ws width goal plans fuel (next + 1) length (some b) else b

/-- Where the lines of a paragraph begin. -/
def planned (ws : Array Word) (first other width goal : Nat) : Array Plan :=
  (List.range ws.size).foldr (fun k (plans : Array Plan) =>
      let indent := if k = 0 then first else other
      let b := best ws width goal plans (ws.size + 1) (k + 1) (indent + (ws[k]!).text.length) none
      plans.setIfInBounds k { b with cost := b.cost + baseCost ws k })
    (.replicate ws.size default)

/-- The words from one on up to the next line. -/
def lineFrom (ws : Array Word) (first next : Nat) : Text :=
  let words := (List.range (next - first)).map fun i => ws[first + i]!
  match words.reverse with
  | [] => []
  | last :: before =>
    (before.reverse.flatMap fun w => w.text ++ List.replicate w.space ' ') ++ last.text

def linesFrom (ws : Array Word) (plans : Array Plan) (other : Nat) : Nat → Nat → List Text
  | 0, _ => []
  | fuel + 1, k =>
    if ws.size ≤ k then []
    else
      let next := (plans[k]!).next
      (List.replicate other ' ' ++ lineFrom ws k next) :: linesFrom ws plans other fuel next

/-- The words of a line. -/
def wordsOf (uniform : Bool) : Nat → Text → List Word
  | 0, _ | _ + 1, [] => []
  | fuel + 1, t =>
    let text := t.takeWhile fun c => !isBlank c
    let behind := t.drop text.length
    let blanks := behind.takeWhile isBlank
    let isLast := (behind.drop blanks.length).isEmpty
    let unquoted := (text.reverse.dropWhile fun c => ")]'\"".toList.contains c)
    let period := unquoted.head?.any fun c => ".?!".toList.contains c
    let final := period && (isLast || 1 < blanks.length)
    let space := if isLast || uniform then (if final then 2 else 1) else blanks.length
    ⟨text, space, text.head?.any fun c => "(['\x60\"".toList.contains c, period,
      text.getLast?.any fun c => '!' ≤ c && c ≤ '~' && !c.isAlphanum, final⟩ ::
      wordsOf uniform fuel (behind.drop blanks.length)

/-- Tabs as blanks. -/
def untabbed : Nat → Text → Text
  | _, [] => []
  | column, '\t' :: t =>
    let n := 8 - column % 8
    List.replicate n ' ' ++ untabbed (column + n) t
  | column, c :: t => c :: untabbed (column + 1) t

/-- A mark that the lines of a paragraph begin with: the blanks before it, the mark without the
blanks behind it, and its length with them. -/
structure Mark where
  lead : Nat
  text : Text
  length : Nat

def Mark.of (t : Text) : Mark :=
  let lead := (t.takeWhile isBlank).length
  let t := t.drop lead
  ⟨lead, (t.reverse.dropWhile isBlank).reverse, t.length⟩

/-- A line: where its mark begins, where its words begin, and its words. -/
structure Line where
  start : Nat
  column : Nat
  words : List Word
  /-- The line as it is written if it belongs to no paragraph. -/
  plain : Text

def lineOf (m : Mark) (uniform : Bool) (t : Text) : Line :=
  let t := untabbed 0 t
  let blanks := (t.takeWhile isBlank).length
  if m.text.isEmpty then
    let rest := t.drop blanks
    let plain := if rest.isEmpty then [] else t
    ⟨min m.lead blanks, blanks, wordsOf uniform (t.length + 1) rest, plain⟩
  else if m.text.isPrefixOf (t.drop blanks) then
    let behind := t.drop (blanks + m.text.length)
    let gap := (behind.takeWhile isBlank).length
    let rest := behind.drop gap
    let plain := if rest.isEmpty then List.replicate blanks ' ' ++ m.text else t
    ⟨blanks, blanks + m.text.length + gap, wordsOf uniform (t.length + 1) rest, plain⟩
  else ⟨blanks, blanks, [], if (t.drop blanks).isEmpty then [] else t⟩

/-- Whether a line is one of a paragraph. -/
def Line.fits (m : Mark) (l : Line) : Bool :=
  !l.words.isEmpty && m.lead ≤ l.start && l.start + m.length ≤ l.column

/-- Blanks as tabs where that is shorter. -/
def tabbed : Nat → Nat → Text → Text
  | 0, _, t => t
  | fuel + 1, column, t =>
    let blanks := (t.takeWhile (· = ' ')).length
    if blanks = 0 then
      match t with
      | [] => []
      | c :: t => c :: tabbed fuel (column + 1) t
    else
      let target := column + blanks
      let stop := target / 8 * 8
      let gap : Text := if column + 1 < stop then
          List.replicate (stop / 8 - column / 8) '\t' ++ List.replicate (target - stop) ' '
        else List.replicate blanks ' '
      gap ++ tabbed fuel target (t.drop blanks)

structure Style where
  width : Nat
  goal : Nat
  splits : Bool
  uniform : Bool
  crown : Bool
  tagged : Bool
  mark : Mark

/-- The last word of a paragraph ends a sentence. -/
def withEnd (ws : List Word) : List Word :=
  match ws.getLast? with
  | some w => ws.dropLast ++ [{ w with period := true, final := true }]
  | none => []

/-- A paragraph as lines. -/
def filled (s : Style) (start first other : Nat) (ws : List Word) : List Text :=
  let ws := (withEnd ws).toArray
  let plans := planned ws first other s.width s.goal
  let front := List.replicate start ' ' ++ s.mark.text
  match linesFrom ws plans (other - front.length) (ws.size + 1) 0 with
  | [] => []
  | l :: ls =>
    (front ++ List.replicate (first - front.length) ' ' ++ l.drop (other - front.length)) ::
      ls.map (front ++ ·)

/-- All paragraphs. Lines that are indented alike belong together. The indent of a paragraph behind
its first line is handed on, and whether there were tabs. -/
def formatted (s : Style) : Nat → Nat → Bool → List Text → List Text
  | 0, _, _, _ | _ + 1, _, _, [] => []
  | fuel + 1, indent, tabs, t :: ts =>
    let l := lineOf s.mark s.uniform t
    let written (tabs : Bool) (u : Text) : Text := if tabs then tabbed (u.length + 1) 0 u else u
    let hasTab (u : Text) : Bool := u.contains '\t'
    if !l.fits s.mark then
      let tabs := tabs || hasTab t
      written tabs l.plain :: formatted s fuel indent tabs ts
    else
      let first := l.column
      let behind := ts.map (lineOf s.mark s.uniform)
      let isMore (n : Line) : Bool := n.fits s.mark && n.start = l.start
      let next? := behind.head?.filter isMore
      let (other, goesOn) : Nat × Bool :=
        if s.splits then (first, false)
        else if s.crown then ((next?.map Line.column).getD first, true)
        else if s.tagged then
          match next?.filter fun n => n.column ≠ first with
          | some n => (n.column, true)
          | none => (if indent = first then (if first = 0 then 3 else 0) else indent, false)
        else (first, true)
      let more := if goesOn then behind.takeWhile fun n => isMore n && n.column = other else []
      let seen := t :: ts.take more.length ++
        ((ts.drop more.length).head?.map (·.takeWhile isBlank)).toList
      let tabs := tabs || seen.any hasTab
      (filled s l.start first other (l.words ++ more.flatMap Line.words)).map (written tabs) ++
        formatted s fuel other tabs (ts.drop more.length)

end Paragraph

def fmt (called : Text) (args : List Text) : Act Unit := do
  let all := known [('c', "crown-margin"), ('s', "split-only"), ('t', "tagged-paragraph"),
    ('u', "uniform-spacing")] [('w', "width"), ('g', "goal"), ('p', "prefix")]
  /- A number alone is a width. -/
  let args := match args with
    | ('-' :: c :: cs) :: rest => if (c :: cs).all Char.isDigit then ['-', 'w'] :: (c :: cs) :: rest
      else args
    | args => args
  let (os, words) ← optionsOr 1 called all true args
  let number (t : Text) (most : Nat) : Act Nat := do
    match Numeral.read? t with
    | none => die called ("invalid width: ".toList ++ (← quoted t)) 1
    | some n =>
      if most < n then
        die called ("invalid width: ".toList ++ (← quoted t) ++
          ": Numerical result out of range".toList) 1
      else return n
  let width? ← (valueOf? os 'w').mapM fun t => number t 2500
  let goal? ← (valueOf? os 'g').mapM fun t => number t (width?.getD 75)
  let (width, goal) := match width?, goal? with
    | some w, some g => (w, g)
    | some w, none => (w, w * 187 / 200)
    | none, some g => (g + 10, g)
    | none, none => (75, 75 * 187 / 200)
  let style : Paragraph.Style := ⟨width, goal, has os 's', has os 'u', has os 'c', has os 't',
    .of ((valueOf? os 'p').getD [])⟩
  for path in orInput words do
    match ← openOperand path with
    | .error e =>
      lack called ("cannot open ".toList ++ (← quotedFully path) ++ " for reading: ".toList ++
        e.message.toList) 1
    | .ok d =>
      let t ← (Intake.of d).whole
      let ls := piecesOf '\n' t
      for l in Paragraph.formatted style (ls.length + 1) 0 false ls do
        putLine l

end RemoteInterpreter.Shell.Tool
