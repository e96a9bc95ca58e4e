import RemoteInterpreter.Simulation.Site

/-!
# Simulations

Sessions on a single thread, together with the far ends of their channels. Background
work is done in turns, in the order of an agenda, and a task that has its turn goes on
until it can do no more. The call that somebody awaits goes on first, and again when it
is told to. Everything that happens to a session is an action of it.
-/

namespace RemoteInterpreter

structure Simulation where
  sites : List Simulation.Site
  agenda : Simulation.Agenda

namespace Simulation

open Session (Party)

def empty : Simulation := ⟨[], .empty⟩

def putSite (i : Nat) (x : Site) (w : Simulation) : Simulation :=
  { w with sites := w.sites.set i x }

def changeSite (i : Nat) (change : Site → Site) (w : Simulation) : Simulation :=
  match w.sites[i]? with
  | none => w
  | some x => w.putSite i (change x)

def session? (i : Nat) (w : Simulation) : Option Session := (w.sites[i]?).map Site.session

/-! Telling -/

def Task.session : Task → Nat
  | .writer i | .reader i | .farEnd i | .monitor i | .binding i _ => i

/-- A task that has come to its end is not told. -/
def wake (t : Task) (w : Simulation) : Simulation :=
  if (w.sites[t.session]?).all (·.isOver t) then w else { w with agenda := w.agenda.wake t }

def signalOf (i : Nat) : Party → Signal
  | .binding n => .task (.binding i n)
  | .call _ => .caller

def notify (i : Nat) (p : Party) (w : Simulation) : Simulation :=
  match p with
  | .binding n => w.wake (.binding i n)
  | .call _ => { w with agenda := { w.agenda with callerDue := true } }

/-- Whoever was put off looks again anyway. -/
def notifyAnswered (i : Nat) (w : Simulation) (p : Party) : Simulation :=
  if w.agenda.deferred.contains (signalOf i p) then w else w.notify i p

/-- A party that sits at a handle is told of it. -/
def call (i n : Nat) (w : Simulation) (p : Party) : Simulation :=
  match (w.sites[i]?).bind (Site.crowd? p) with
  | none => w.notify i p
  | some c =>
    let w := w.changeSite i (Site.putCrowd p (c.call n))
    if c.listening && !c.called.contains n then w.notify i p else w

def ring (i n : Nat) (w : Simulation) : Simulation :=
  match w.sites[i]? with
  | none => w
  | some x =>
    (x.seatsAt n).listeners.foldl (call i n) (w.putSite i (x.putSeats n (x.seatsAt n).hushed))

def give (w : Simulation) : Signal → Simulation
  | .task t => w.wake t
  | .caller => { w with agenda := { w.agenda with callerDue := true } }
  | .seats i n => w.ring i n

def giveDeferred (w : Simulation) : Simulation :=
  w.agenda.deferred.foldl give { w with agenda := { w.agenda with deferred := [] } }

/-! Actions -/

/-- The writer is told between its batches. -/
def wakeWriter (i : Nat) (before after : Channel Party) (w : Simulation) : Simulation :=
  let told := before.commandsSent < after.commandsSent ||
    before.outbox.stopping != after.outbox.stopping
  if told && !before.outbox.writing then w.wake (.writer i) else w

/-- A monitor is told that it was signalled, and whoever waits for it that it is over. -/
def wakeMonitor (i : Nat) (before after : Monitor) (w : Simulation) : Simulation :=
  if before ≠ after ∧ (after = .signalled ∨ after = .over) then w.wake (.monitor i) else w

def wakeReader (i : Nat) (a : Session.Action) (w : Simulation) : Simulation :=
  match a with
  | .feed _ | .finish _ => w.wake (.reader i)
  | _ => w

def ringIfWatched (i : Nat) (w : Simulation) (n : Nat) : Simulation :=
  match w.sites[i]? with
  | none => w
  | some x => if (x.seatsAt n).watched then w.ring i n else w

/-- An action of a session, and everybody is told whom it concerns. -/
def act (i : Nat) (a : Session.Action) (w : Simulation) : Simulation :=
  match w.sites[i]? with
  | none => w
  | some x =>
    let after := x.session.act a
    let w := w.putSite i { x with session := after }
    let w := w.wakeWriter i x.session.channel after.channel
    let w := if x.session.built < after.built then w.wake (.binding i x.session.built) else w
    let w := w.wakeReader i a
    let w := w.wakeMonitor i x.session.channel.monitor after.channel.monitor
    let w := (x.reached a).foldl (notifyAnswered i) w
    (x.ended a).foldl (ringIfWatched i) w

/-! Looking at handles -/

/-- A party looks whether a handle has ended, and listens if it has not. The first one to see it
tells all others. -/
def look (i : Nat) (p : Party) (n : Nat) (w : Simulation) : Bool × Simulation :=
  match w.sites[i]? with
  | none => (false, w)
  | some x =>
    if (x.seatsAt n).settled then (true, w)
    else
      let seats := (x.seatsAt n).take p
      if w.agenda.allowance = 0 then
        (false, { w.putSite i (x.putSeats n seats) with agenda := w.agenda.defer (.seats i n) })
      else if x.hasEnded n then
        let w := { w.putSite i (x.putSeats n seats) with agenda := w.agenda.spend }
        (true, (w.ring i n).changeSite i fun x => x.putSeats n (x.seatsAt n).settle)
      else (false, w.putSite i (x.putSeats n { seats with watched := true }))

def failed (i n : Nat) (w : Simulation) : Bool := (w.sites[i]?).any (Site.hasFailed n)

/-- Few handles are looked at all at once, up to the first failure. The result tells whether the
wait is over. -/
def attendFew (i : Nat) (p : Party) : List Nat → Bool → Simulation → Bool × Simulation
  | [], finished, w => (finished, w)
  | n :: rest, finished, w =>
    match w.look i p n with
    | (false, w) => attendFew i p rest false w
    | (true, w) => if w.failed i n then (true, w) else attendFew i p rest finished w

/-- Of many handles those are looked at that the party was told of. If that is in vain for all that
are left, it has another turn. -/
def attendMany (i : Nat) (p : Party) (uses : List Nat) :
    Nat → Nat → Simulation → Bool × Simulation
  | 0, _, w => (false, w)
  | fuel + 1, looked, w =>
    match (w.sites[i]?).bind (Site.crowd? p) with
    | none => (false, w)
    | some c =>
      match c.called with
      | [] => (c.left.isEmpty, w.changeSite i (Site.putCrowd p { c with listening := true }))
      | n :: called =>
        let w := w.changeSite i (Site.putCrowd p { c with called := called, listening := true })
        if !c.left.contains n then attendMany i p uses fuel looked w
        else
          match w.look i p n with
          | (false, w) =>
            if looked + 1 = c.left.length then (false, w.notify i p)
            else attendMany i p uses fuel (looked + 1) w
          | (true, w) =>
            match (w.sites[i]?).bind (Site.crowd? p) with
            | none => (false, w)
            | some c =>
              let c := c.saw n
              let w := w.changeSite i (Site.putCrowd p c)
              if (w.sites[i]?).any (Site.hasFailedInOrder uses c.left) then (true, w)
              else attendMany i p uses fuel 0 w

def attend (i : Nat) (p : Party) (uses : List Nat) (w : Simulation) : Bool × Simulation :=
  if uses.length ≤ Session.Joined.smallCount then w.attendFew i p uses true
  else
    match (w.sites[i]?).bind (Site.crowd? p) with
    | some c => w.attendMany i p uses (c.called.length + c.left.length + 4) 0
    | none =>
      (w.changeSite i (Site.putCrowd p (.ofUses uses))).attendMany i p uses (2 * uses.length + 4) 0

/-! Turns -/

/-- A party goes on until it waits or has come to its end. -/
def goOn (i : Nat) (p : Party) : Nat → Simulation → Simulation
  | 0, w => w
  | k + 1, w =>
    match w.sites[i]? with
    | none => w
    | some x =>
      match x.errand? p with
      | none => w
      | some ⟨uses, _, .held⟩ =>
        match w.attend i p uses with
        | (false, w) => w
        | (true, w) => goOn i p k ((w.changeSite i (Site.leave p uses)).act i (.advance p))
      | some ⟨_, _, .parked _⟩ =>
        if w.agenda.allowance = 0 then { w with agenda := w.agenda.defer (signalOf i p) }
        else if x.isAnswered p then
          goOn i p k (act i (.advance p) { w with agenda := w.agenda.spend })
        else w
      | some _ => goOn i p k (w.act i (.advance p))

def poll (i : Nat) (p : Party) (w : Simulation) : Simulation :=
  match w.sites[i]? with
  | none => w
  | some x => w.goOn i p (x.stepBound p)

/-- The far end is told if it waits for this. -/
def meet (i : Nat) (need : Need) (w : Simulation) : Simulation :=
  match w.sites[i]? with
  | none => w
  | some x =>
    if x.farEnd.need = need then
      (w.putSite i { x with farEnd := { x.farEnd with need := .nothing } }).wake (.farEnd i)
    else w

/-- Lines of a batch enter the pipe as far as there is room. -/
def writeOn (i : Nat) : Nat → Simulation → Simulation
  | 0, w => w
  | k + 1, w =>
    match w.sites[i]? with
    | none => w
    | some x =>
      let o := x.session.channel.outbox
      if o.writing && o.taken == o.commands.length && o.refusal.isNone then
        let rest := o.pipe.length - x.entered
        let n := min rest (Site.capacity - x.entered)
        let w := w.putSite i { x with entered := x.entered + n, writerWaits := decide (n < rest) }
        let w := if 0 < n then w.meet i .input else w
        if n < rest then w else writeOn i k (w.act i .write)
      else if x.session.channel.write?.isSome then writeOn i k (w.act i .write)
      else w

/-- A step for every line, and those that begin and end a batch. -/
def write (i : Nat) (w : Simulation) : Simulation :=
  match w.sites[i]? with
  | none => w
  | some x =>
    let o := x.session.channel.outbox
    let w := w.writeOn i (2 * (o.commands.length - o.taken) + 6)
    if (w.sites[i]?).any (·.isOver (.writer i)) then w.meet i .input else w

def readOn (i : Nat) : Nat → Simulation → Simulation
  | 0, w => w
  | k + 1, w =>
    if (w.session? i).any fun s => s.channel.read?.isSome then readOn i k (w.act i .read) else w

/-- At most one step for every octet, and those at the end of the stream. -/
def read (i : Nat) (w : Simulation) : Simulation :=
  match w.session? i with
  | none => w
  | some s =>
    let inbox := s.channel.inbox
    let w := if inbox.incoming.isEmpty then w else w.meet i .room
    w.readOn i (inbox.fetched.length + inbox.incoming.length + 3)

/-- Octets leave the pipe, and a writer that waits for room is told. -/
def takeOut (i n : Nat) (w : Simulation) : Simulation :=
  match w.sites[i]? with
  | none => w
  | some x =>
    let w := w.putSite i { x with entered := x.entered - n, writerWaits := false }
    let w := w.act i (.carry n)
    if x.writerWaits then w.wake (.writer i) else w

def changeFarEnd (i : Nat) (change : FarEnd → FarEnd) (w : Simulation) : Simulation :=
  w.changeSite i fun x => { x with farEnd := change x.farEnd }

def deferFarEnd (i : Nat) (w : Simulation) : Simulation :=
  { w with agenda := w.agenda.defer (.task (.farEnd i)) }

/-- Answers the received lines one after the other, as far as there is room. -/
def answerOn (i : Nat) (answer : Text → Octets) : Nat → Simulation → Simulation
  | 0, w => w
  | k + 1, w =>
    match w.sites[i]? with
    | none => w
    | some x =>
      let f := x.farEnd
      if !f.unsent.isEmpty then
        if w.agenda.allowance = 0 then w.deferFarEnd i
        else if x.room = 0 then w.changeFarEnd i fun f => { f with need := .room }
        else
          let w := { w with agenda := w.agenda.spend }
          let w := w.changeFarEnd i fun f => { f with unsent := f.unsent.drop x.room }
          answerOn i answer k (w.act i (.feed (f.unsent.take x.room)))
      else
        match Text.cut? Inbox.lineFeed f.unread with
        | some (line, rest) =>
          answerOn i answer k
            (w.changeFarEnd i fun f =>
              { f with unread := rest, unsent := answer (Text.decodeLossy line) })
        | none =>
          if w.agenda.allowance = 0 then w.deferFarEnd i
          else if 0 < x.entered then
            let n := min Site.chunk x.entered
            let fresh := x.session.channel.outbox.carried n
            let w := { w with agenda := w.agenda.spend }
            answerOn i answer k
              ((w.takeOut i n).changeFarEnd i fun f => { f with unread := f.unread ++ fresh })
          else if x.isOver (.writer i) then
            (w.changeFarEnd i fun f => { f with gone := true }).act i (.finish .closed)
          else w.changeFarEnd i fun f => { f with need := .input }

/-- What an interpreter has put out since the last time comes back. -/
def interpret (i : Nat) (w : Simulation) : Simulation :=
  match (w.sites[i]?).bind Site.output?, w.sites[i]? with
  | some output, some x =>
    let fresh := output.out.drop x.farEnd.sent
    let w := w.changeFarEnd i fun f =>
      { f with sent := output.out.length, output := some output, need := .input }
    let w := if fresh.isEmpty then w else w.act i (.feed fresh)
    let w :=
      if output.inEnded then w.act i (.stopReceiving "Broken pipe (os error 32)".toList) else w
    let w := if output.outEnded then w.act i (.finish .closed) else w
    if output.exited then w.act i .exit else w
  | _, _ => w

/-- A monitor that was signalled kills the process. When it is over, the kill goes on. -/
def watch (i : Nat) (w : Simulation) : Simulation :=
  match w.sites[i]? with
  | none => w
  | some x =>
    match x.session.channel.monitor with
    | .signalled => ((w.act i .heed).changeFarEnd i FarEnd.kill).wake (.farEnd i)
    | .over => w.act i .resume
    | _ => w

def serve (i : Nat) (w : Simulation) : Simulation :=
  match w.sites[i]? with
  | none => w
  | some x =>
    match x.farEnd.nature with
    | .answering answer =>
      w.answerOn i answer (x.farEnd.unread.length + x.entered + 2 * Agenda.fullAllowance + 4)
    | .interpreter _ =>
      let fresh := x.session.channel.outbox.carried x.entered
      let w := (w.takeOut i x.entered).changeFarEnd i (FarEnd.receive fresh)
      let w := if x.isOver (.writer i) then w.changeFarEnd i FarEnd.receiveEnd else w
      w.interpret i
    | .silent =>
      if x.farEnd.leaving then
        let w := w.changeFarEnd i fun f => { f with gone := true }
        let w := w.act i (.stopReceiving "broken pipe".toList)
        if x.writerWaits then w.wake (.writer i) else w
      else (w.takeOut i x.entered).changeFarEnd i fun f => { f with need := .input }

def doTurn (w : Simulation) : Task → Simulation
  | .writer i => w.write i
  | .reader i => w.read i
  | .farEnd i => w.serve i
  | .monitor i => w.watch i
  | .binding i n => w.poll i (.binding n)

def turn (t : Task) (w : Simulation) : Simulation :=
  let w := doTurn { w with agenda := w.agenda.begin t } t
  let again := w.agenda.again
  let w := { w with agenda := w.agenda.finish }
  if again then w.wake t else w

/-- The turns of a round; tasks that are woken meanwhile come last. -/
def turns : Nat → Simulation → Simulation
  | 0, w => w
  | k + 1, w =>
    match w.agenda.queue with
    | [] => w
    | t :: rest => turns k (turn t { w with agenda := { w.agenda with queue := rest } })

/-- The greatest number of turns in a round. -/
def roundLength : Nat := 61

/-- More rounds than any work that is left can fill. -/
def rounds (w : Simulation) : Nat :=
  let parts := w.sites.map fun x =>
    x.session.built + x.session.begun + x.session.channel.commandsSent
  (parts.sum + w.agenda.queue.length + 8) ^ 2

/-- Goes on until the caller has its turn, or until nothing moves any more. -/
def runOn : Nat → Simulation → Bool × Simulation
  | 0, w => (false, w)
  | k + 1, w =>
    if w.agenda.callerDue then (true, { w with agenda := w.agenda.attendCaller })
    else
      let w := turns roundLength w
      if w.agenda.rests then (false, { w with agenda := w.agenda.attendCaller })
      else runOn k w.giveDeferred

/-! Callers -/

def settleFor : Nat → Simulation → Simulation
  | 0, w => w
  | k + 1, w =>
    match w.runOn w.rounds with
    | (true, w) => settleFor k w
    | (false, w) => w

/-- All background work is done. -/
def settle (w : Simulation) : Simulation := settleFor w.rounds w

/-- An interpreter that sleeps goes on, the one first that wakes first. -/
def letTimePass (w : Simulation) : Option Simulation :=
  let times := (List.range w.sites.length).filterMap fun i =>
    ((w.sites[i]?).bind Site.output?).bind fun o => o.wakesAt.map fun at_ => (at_, i)
  match times with
  | [] => none
  | first :: rest =>
    let (time, i) := rest.foldl (fun a b => if b.1 < a.1 then b else a) first
    some ((w.changeFarEnd i (FarEnd.elapse time)).wake (.farEnd i))

def result? (i n : Nat) (w : Simulation) : Option (Except Session.Error Session.Answer) :=
  (w.session? i).bind (Session.result? n)

def awaitFor (i n : Nat) : Nat → Simulation → Simulation
  | 0, w => w
  | k + 1, w =>
    let w := w.poll i (.call n)
    if (w.result? i n).isSome then w
    else
      match w.runOn w.rounds with
      | (true, w) => awaitFor i n k w
      | (false, w) =>
        match w.letTimePass with
        | some w => awaitFor i n k w
        | none => w

/-- A call is awaited until it ends or nothing moves any more. -/
def await (i n : Nat) (w : Simulation) : Simulation := awaitFor i n w.rounds w

/-- A call starts; its number tells it apart. -/
def begin (i : Nat) (r : Session.Request) (w : Simulation) : Simulation × Nat :=
  (w.act i (.begin r), ((w.session? i).map Session.begun).getD 0)

/-- Nobody awaits a call any more. -/
def drop (i n : Nat) (w : Simulation) : Simulation :=
  let uses := (((w.session? i).bind fun s => s.calls n).map fun c => c.errand.uses).getD []
  (w.act i (.drop n)).changeSite i (Site.leave (.call n) uses)

/-- The far end is told to stop reading. -/
def dismiss (i : Nat) (w : Simulation) : Simulation :=
  (w.changeFarEnd i fun f => { f with leaving := true }).wake (.farEnd i)

/-- Another session. Far end, reader and writer have their first turns in this order. -/
def addSession (s : Session) (nature : Nature) (w : Simulation) : Simulation :=
  let i := w.sites.length
  let w := { w with sites := w.sites ++ [Site.ofSession s nature] }
  ((w.wake (.farEnd i)).wake (.reader i)).wake (.writer i)

/-- The lines that the far end has received since the last report. -/
def report (i : Nat) (w : Simulation) : List Text × Simulation :=
  match w.sites[i]? with
  | none => ([], w)
  | some x =>
    let received := x.session.channel.outbox.received
    (Interpreter.linesOf (received.drop x.reported),
      w.putSite i { x with reported := received.length })

end Simulation

end RemoteInterpreter
