import RemoteInterpreter.Proofs.Delivery
import RemoteInterpreter.Proofs.Transmission

/-!
# What the reader inserts

The responses that a run inserts into the table are those of the lines of what was fed, as if
the whole stream had been split at its line feeds at once. How it was divided into chunks,
and what happened between any two steps of the reader, makes no difference.
-/

namespace RemoteInterpreter

open Inbox (lineFeed)

/-! Lines of a stream -/

namespace Interpreter

/-- What stands behind the last line feed. -/
def unended (octets : Octets) : Octets :=
  (octets.splitOn lineFeed).getLast (List.splitOn_ne_nil _ _)

/-- The pieces as lines. -/
def joinLines (pieces : List Octets) : Octets := pieces.flatMap fun piece => piece ++ [lineFeed]

variable {pieces : List Octets} {piece rest : Octets}

theorem joinLines_concat (pieces : List Octets) (piece : Octets) :
    joinLines (pieces ++ [piece]) = joinLines pieces ++ (piece ++ [lineFeed]) := by
  simp [joinLines]

theorem cutLines_joinLines_append (free : ∀ piece ∈ pieces, lineFeed ∉ piece) (octets : Octets) :
    cutLines (joinLines pieces ++ octets) = pieces ++ cutLines octets := by
  induction pieces with
  | nil => rfl
  | cons piece pieces ih =>
    have hcons : joinLines (piece :: pieces) ++ octets =
        piece ++ lineFeed :: (joinLines pieces ++ octets) := by simp [joinLines]
    rw [hcons, cutLines_cons (free piece List.mem_cons_self),
      ih fun p hp => free p (List.mem_cons_of_mem _ hp), List.cons_append]

theorem cutLines_joinLines (free : ∀ piece ∈ pieces, lineFeed ∉ piece) (hrest : lineFeed ∉ rest) :
    cutLines (joinLines pieces ++ rest) = pieces := by
  rw [cutLines_joinLines_append free, cutLines_of_not_mem hrest, List.append_nil]

/-- A stream that is the beginning of another one has the first of its lines. -/
theorem prefix_of_joinLines {lines : List Octets} (free : ∀ piece ∈ pieces, lineFeed ∉ piece)
    (free' : ∀ line ∈ lines, lineFeed ∉ line) (h : joinLines pieces <+: joinLines lines) :
    pieces <+: lines := by
  obtain ⟨rest, hrest⟩ := h
  have hlines := cutLines_joinLines free' (List.not_mem_nil (a := lineFeed))
  rw [List.append_nil, ← hrest, cutLines_joinLines_append free] at hlines
  exact ⟨_, hlines⟩

/-- A stream is its lines and what stands behind the last of them. -/
theorem cutLines_append_unended (octets : Octets) :
    cutLines octets ++ [unended octets] = octets.splitOn lineFeed :=
  List.dropLast_append_getLast _

/-- A line feed at the end makes a line of what stands behind the others. -/
theorem cutLines_append_lineFeed (octets : Octets) :
    cutLines (octets ++ [lineFeed]) = cutLines octets ++ [unended octets] := by
  rw [cutLines_append_unended, cutLines, List.splitOn_append_cons_self, List.splitOn_nil,
    List.dropLast_concat]

end Interpreter

/-- The response that a line holds: it is decoded with its line feed and freed of all line ends. An
empty line is skipped, and one that is no response is dropped. -/
def Response.ofLine? (line : Octets) : Option Response :=
  let text := (Text.decodeLossy (line ++ [lineFeed])).withoutLineEnds
  if text.isEmpty then none else (Message.parse text).toOption

/-- The responses that the lines of a stream hold, in their order. -/
def responses (octets : Octets) : List Response :=
  (Interpreter.cutLines octets).filterMap Response.ofLine?

/-- The reader, which decodes a piece without its line feed, finds the same. -/
theorem Response.ofPiece?_eq (piece : Octets) : ofPiece? piece = ofLine? piece := by
  have hline : (Text.decodeLossy (piece ++ [lineFeed])).withoutLineEnds =
      (Text.decodeLossy piece).withoutLineEnds := by
    rw [show [lineFeed] = 10 :: [] from rfl, Text.decodeLossy_append_lineFeed]
    simp [Text.withoutLineEnds]
  unfold ofPiece? ofLine?
  rw [hline]
  generalize (Text.decodeLossy piece).withoutLineEnds = text
  cases text with
  | nil => rfl
  | cons c text =>
    simp only [List.isEmpty_cons, Bool.false_eq_true, ↓reduceIte]
    cases Message.parse (τ := Status) (c :: text) <;> rfl

theorem responses_append_lineFeed (octets : Octets) :
    responses (octets ++ [lineFeed]) =
      responses octets ++ (Response.ofLine? (Interpreter.unended octets)).toList := by
  rw [responses, Interpreter.cutLines_append_lineFeed, List.filterMap_append, responses]
  cases h : Response.ofLine? (Interpreter.unended octets) <;> simp [h]

namespace Session

variable {s t : Session} {a : Action} {as bs : List Action} {r : Response}
variable {number : Nat} {stem : Text} {debug : Bool}

/-! What is inserted -/

/-- The response that an action inserts into the table. -/
def inserted? (s : Session) : Action → Option Response
  | .read =>
    match s.channel.inbox.read with
    | .piece octets _ => Response.ofPiece? octets
    | _ => none
  | _ => none

/-- The responses that a run inserts into the table, in their order. -/
def inserted (s : Session) : List Action → List Response
  | [] => []
  | a :: as => (s.inserted? a).toList ++ (s.act a).inserted as

theorem inserted_append (s : Session) (as bs : List Action) :
    s.inserted (as ++ bs) = s.inserted as ++ (s.run as).inserted bs := by
  induction as generalizing s with
  | nil => rfl
  | cons a as ih => simp [inserted, ih]

theorem inserted_concat (s : Session) (as : List Action) (a : Action) :
    s.inserted (as ++ [a]) = s.inserted as ++ ((s.run as).inserted? a).toList := by
  simp [inserted_append, inserted]

theorem inserted?_read {octets : Octets} {i : Inbox}
    (hread : s.channel.inbox.read = .piece octets i) :
    s.inserted? .read = Response.ofPiece? octets := by
  simp [inserted?, hread]

theorem inserted?_of_quiet (hq : Quiet s a) : s.inserted? a = none := by
  cases a with
  | read =>
    simp only [inserted?]
    split
    · next h => exact absurd h (hq rfl _ _)
    · rfl
  | _ => rfl

/-- A reader that has stopped inserts nothing more. -/
theorem inserted_of_stopped (h : s.channel.inbox.stopped = true) (as : List Action) :
    s.inserted as = [] := by
  induction as generalizing s with
  | nil => rfl
  | cons a as ih =>
    have hrested : s.channel.inbox.read = .rested := by simp [Inbox.read, h]
    have hq : Quiet s a := fun _ octets i hi => by rw [hrested] at hi; cases hi
    have hstopped : (s.act a).channel.inbox.stopped = true := by
      rw [inbox_act]
      cases a with
      | read => rwa [hrested]
      | finish ending => cases ending <;> exact h
      | _ => exact h
    simp [inserted, inserted?_of_quiet hq, ih hstopped]

/-- What an action makes of the responses: one that is inserted goes to its caller or into the
table, a piece that holds none is forgotten, and nothing else brings a response in. -/
structure Admits (s : Session) (as : List Action) (a : Action) : Prop where
  inserts : ∀ r, (s.run as).inserted? a = some r →
    ((s.run as).act a).channel.pending = (s.run as).channel.pending.insert r
  nothing : (s.run as).inserted? a = none → ∀ r spot, spot ≠ .gone →
    Lies r s (as ++ [a]) spot → Lies r s as spot
  skips : ∀ octets i, a = .read → (s.run as).channel.inbox.read = .piece octets i →
    Response.ofLine? octets = none → (s.run as).act a =
      { s.run as with channel := { (s.run as).channel with inbox := i } }
  isOpen : ∀ octets i, a = .read → (s.run as).channel.inbox.read = .piece octets i →
    ((s.run as).act a).channel.pending.closed = (s.run as).channel.pending.closed

theorem act_read {octets : Octets} {i : Inbox} (h : s.channel.inbox.read = .piece octets i) :
    s.act .read = { s with channel := Channel.deliver octets { s.channel with inbox := i } } := by
  simp [act, Channel.read?, h]

theorem admits (s : Session) (as : List Action) (a : Action) : Admits s as a := by
  refine ⟨?_, ?_, ?_, ?_⟩
  · intro r hr
    by_cases hread : ∃ octets i, a = .read ∧ (s.run as).channel.inbox.read = .piece octets i
    · obtain ⟨octets, i, rfl, hread⟩ := hread
      rw [inserted?_read hread] at hr
      rw [act_read hread, Channel.deliver, hr]
    · have hq : Quiet (s.run as) a := fun ha octets i hi => hread ⟨octets, i, ha, hi⟩
      rw [inserted?_of_quiet hq] at hr
      cases hr
  · intro hnone r spot hspot hl
    by_cases hread : ∃ octets i, a = .read ∧ (s.run as).channel.inbox.read = .piece octets i
    · obtain ⟨octets, i, rfl, hread⟩ := hread
      rw [inserted?_read hread] at hnone
      exact lies_read_nothing hread hnone hl
    · have hq : Quiet (s.run as) a := fun ha octets i hi => hread ⟨octets, i, ha, hi⟩
      exact lies_of_lies_concat hq hspot hl
  · rintro octets i rfl hread hnone
    rw [act_read hread, Channel.deliver, Response.ofPiece?_eq, hnone]
  · rintro octets i rfl hread
    rw [act_read hread, Channel.deliver]
    split
    · rfl
    · exact Pending.closed_insert _ _

/-! The lines of a run -/

/-- The reader has cut these lines off the stream, and inserted the responses that they hold. -/
structure Inserts (lines : List Octets) (s : Session) (as : List Action) : Prop where
  cut : CutOff (Interpreter.joinLines lines) as (s.run as).channel.inbox
  free : ∀ line ∈ lines, lineFeed ∉ line
  inserted : s.inserted as = lines.filterMap Response.ofLine?

theorem inserts_run (hopen : opened number stem debug = .ok s) (hend : EndsOnce as) :
    ∃ lines, Inserts lines s as := by
  induction as using List.reverseRecOn with
  | nil =>
    refine ⟨[], ?_, by simp, rfl⟩
    rw [run_nil, channel_opened hopen]
    exact cutOff_empty
  | append_singleton as a ih =>
    obtain ⟨lines, h⟩ := ih hend.of_append
    by_cases hread : ∃ octets i, a = .read ∧ (s.run as).channel.inbox.read = .piece octets i
    · obtain ⟨octets, i, rfl, hread⟩ := hread
      obtain ⟨hfree, hcut, -⟩ := h.cut.next hread
      refine ⟨lines ++ [octets], ?_, ?_, ?_⟩
      · rw [Interpreter.joinLines_concat, run_concat, inbox_act, hread]
        exact hcut
      · intro line hline
        rcases List.mem_append.1 hline with hline | hline
        · exact h.free line hline
        · cases List.mem_singleton.1 hline
          exact hfree
      · rw [inserted_concat, h.inserted, inserted?_read hread, Response.ofPiece?_eq,
          List.filterMap_append]
        cases hr : Response.ofLine? octets <;> simp [hr]
    · have hq : Quiet (s.run as) a := fun ha octets i hi => hread ⟨octets, i, ha, hi⟩
      refine ⟨lines, ?_, h.free, ?_⟩
      · rw [run_concat]
        exact h.cut.keep hend hq
      · rw [inserted_concat, inserted?_of_quiet hq, h.inserted]
        simp

theorem Inserts.eq_responses {lines : List Octets} {octets rest : Octets} (h : Inserts lines s as)
    (hoctets : octets = Interpreter.joinLines lines ++ rest) (hrest : lineFeed ∉ rest) :
    s.inserted as = responses octets := by
  rw [responses, hoctets, Interpreter.cutLines_joinLines h.free hrest, h.inserted]

theorem Inserts.eq_responses_ended {lines : List Octets} (h : Inserts lines s as)
    (hfed : fed as ++ [lineFeed] = Interpreter.joinLines lines) :
    s.inserted as = responses (fed as ++ [lineFeed]) :=
  h.eq_responses (hfed.trans (List.append_nil _).symm) (by simp)

/-- The reader is at rest, and nothing broke the stream. -/
structure CaughtUp (s : Session) (as : List Action) : Prop where
  unbroken : ∀ fault, .finish (.broken fault) ∉ as
  rested : (s.run as).channel.read? = none

theorem read_eq_rested (h : s.channel.read? = none) : s.channel.inbox.read = .rested := by
  unfold Channel.read? at h
  split at h
  · assumption
  all_goals cases h

/-- At rest the responses of all lines have been inserted. -/
theorem Inserts.of_caughtUp {lines : List Octets} (h : Inserts lines s as) (hd : CaughtUp s as) :
    (.finish .closed ∉ as ∧ s.inserted as = responses (fed as)) ∨
      (.finish .closed ∈ as ∧ s.inserted as = responses (fed as ++ [lineFeed])) := by
  have hr := (s.run as).channel.inbox.reads_read
  rw [read_eq_rested hd.rested] at hr
  rcases h.cut.rest with ⟨hrest, hfree, hstopped⟩ | ⟨he, -, hlast⟩ | ⟨-, ⟨fault, hfault⟩, -⟩
  · cases hr with
    | rests idle =>
      rcases idle with stopped | ⟨hfetched, hincoming, hended⟩
      · -- the stream has ended with a line feed, and another one only makes an empty line
        obtain ⟨he, hnil⟩ := hstopped stopped
        have hfed : fed as = Interpreter.joinLines lines ++ [] := by rw [hrest, hnil]
        have hinserted : s.inserted as = responses (fed as) := h.eq_responses hfed (by simp)
        have hunended : Interpreter.cutLines (fed as ++ [lineFeed]) = lines ++ [[]] := by
          have hfree : ∀ line ∈ lines ++ [[]], lineFeed ∉ line := by
            simpa [or_imp, forall_and] using h.free
          rw [← Interpreter.cutLines_joinLines hfree (List.not_mem_nil),
            Interpreter.joinLines_concat, hfed]
          simp
        refine Or.inr ⟨he, ?_⟩
        rw [h.inserted, responses, hunended, List.filterMap_append]
        simp [show Response.ofLine? [] = none from rfl]
      · refine Or.inl ⟨fun he => ?_, h.eq_responses hrest ?_⟩
        · rw [h.cut.ended.2 he] at hended
          cases hended
        · simpa [Inbox.unread, hfetched, hincoming] using hfree
  · exact Or.inr ⟨he, h.eq_responses_ended hlast⟩
  · exact absurd hfault (hd.unbroken fault)

/-- All along, what was inserted are the responses of the lines up to some point of the stream. -/
theorem Inserts.upTo {lines : List Octets} (h : Inserts lines s as) :
    ∃ octets rest, fed as = octets ++ rest ∧ (s.inserted as = responses octets ∨
      .finish .closed ∈ as ∧ rest = [] ∧ s.inserted as = responses (octets ++ [lineFeed])) := by
  rcases h.cut.rest with ⟨hrest, hfree, -⟩ | ⟨he, -, hlast⟩ | ⟨-, -, unfinished, lost, hrest, hfree⟩
  · rw [Inbox.unread, ← List.append_assoc] at hrest
    exact ⟨_, _, hrest, Or.inl (h.eq_responses rfl hfree)⟩
  · exact ⟨fed as, [], by simp, Or.inr ⟨he, rfl, h.eq_responses_ended hlast⟩⟩
  · rw [← List.append_assoc] at hrest
    exact ⟨_, _, hrest, Or.inl (h.eq_responses rfl hfree)⟩

/-- A broken stream: everything that was fetched before has been looked at, the rest is lost, the
table is closed with the fault, and nothing is inserted any more. -/
structure Breaks (s : Session) (before after : List Action) (fault : Text) (i : Inbox) : Prop where
  broken : .finish (.broken fault) ∈ before
  heard : ∃ octets, fed before = octets ++ (s.run before).channel.inbox.incoming ∧
    (s.inserted before = responses octets ∨
      .finish .closed ∈ before ∧ s.inserted before = responses (octets ++ [lineFeed]))
  closes : s.run (before ++ [.read]) = { s.run before with
    channel := { (s.run before).channel.close (.readFailed fault) with inbox := i } }
  lost : i.unread = [] ∧ i.stopped = true
  reason : (s.run before).channel.pending.closed = none →
    (s.run (before ++ .read :: after)).channel.pending.closed = some (.readFailed fault)
  rests : s.inserted (before ++ .read :: after) = s.inserted before

theorem Inserts.breaks {lines : List Octets} {before after : List Action} {fault : Text}
    {i : Inbox} (h : Inserts lines s before)
    (hread : (s.run before).channel.inbox.read = .finished (.readFailed fault) i) :
    Breaks s before after fault i := by
  have hr := (s.run before).channel.inbox.reads_read
  rw [hread] at hr
  have hact : (s.run before).act .read = { s.run before with
      channel := { (s.run before).channel.close (.readFailed fault) with inbox := i } } := by
    simp [act, Channel.read?, hread]
  cases hr with
  | breaks live empty broken =>
    refine ⟨h.cut.fault broken, ?_, by rw [run_concat, hact], ?_, ?_, ?_⟩
    · rcases h.cut.of_live live with ⟨hrest, hfree⟩ | ⟨he, hnil, hlast⟩
      · rw [Inbox.unread, empty, List.nil_append, ← List.append_assoc] at hrest
        exact ⟨_, hrest, Or.inl (h.eq_responses rfl hfree)⟩
      · refine ⟨fed before, ?_, Or.inr ⟨he, h.eq_responses_ended hlast⟩⟩
        simp only [Inbox.unread, List.append_eq_nil_iff] at hnil
        simp [hnil.2.2]
    · simp [Inbox.unread, empty]
    · intro hopen
      rw [run_append, run_cons, hact]
      exact closed_run (by simp [Channel.close, Pending.close, hopen]) after
    · have hnone : (s.run before).inserted? .read = none := by simp [inserted?, hread]
      have hstopped : ((s.run before).act .read).channel.inbox.stopped = true := by rw [hact]
      rw [inserted_append, Session.inserted, hnone, inserted_of_stopped hstopped after]
      simp

/-- Whatever the chunks in which a stream comes, and whatever happens between two steps of the
reader, the same responses are inserted: those of its lines, in order. A line without a response
changes nothing. When the stream breaks, the lines up to there have been inserted. -/
theorem lines_inserted_in_order (hopen : opened number stem debug = .ok s) (hend : EndsOnce as) :
    (∃ octets rest, fed as = octets ++ rest ∧ (s.inserted as = responses octets ∨
      .finish .closed ∈ as ∧ rest = [] ∧ s.inserted as = responses (octets ++ [lineFeed]))) ∧
    (CaughtUp s as →
      (.finish .closed ∉ as → s.inserted as = responses (fed as)) ∧
      (.finish .closed ∈ as → s.inserted as = responses (fed as) ++
        (Response.ofLine? (Interpreter.unended (fed as))).toList)) ∧
    (∀ bs, EndsOnce bs → fed bs = fed as → (.finish .closed ∈ bs ↔ .finish .closed ∈ as) →
      CaughtUp s as → CaughtUp s bs → s.inserted bs = s.inserted as) ∧
    (∀ before a after, as = before ++ a :: after → Admits s before a) ∧
    ∀ before after fault i, as = before ++ .read :: after →
      (s.run before).channel.inbox.read = .finished (.readFailed fault) i →
      Breaks s before after fault i := by
  have caughtUp : ∀ {cs}, EndsOnce cs → CaughtUp s cs →
      (.finish .closed ∉ cs ∧ s.inserted cs = responses (fed cs)) ∨
        (.finish .closed ∈ cs ∧ s.inserted cs = responses (fed cs ++ [lineFeed])) := by
    intro cs hcs hd
    obtain ⟨lines, h⟩ := inserts_run hopen hcs
    exact h.of_caughtUp hd
  refine ⟨?_, ?_, ?_, ?_, ?_⟩
  · obtain ⟨lines, h⟩ := inserts_run hopen hend
    exact h.upTo
  · intro hd
    rcases caughtUp hend hd with ⟨hopenEnd, h⟩ | ⟨he, h⟩
    · exact ⟨fun _ => h, fun he => absurd he hopenEnd⟩
    · exact ⟨fun hopenEnd => absurd he hopenEnd, fun _ => by rw [h, responses_append_lineFeed]⟩
  · intro bs hbs hfed hiff hd hd'
    rcases caughtUp hend hd with ⟨he, h⟩ | ⟨he, h⟩
    · rcases caughtUp hbs hd' with ⟨-, h'⟩ | ⟨he', -⟩
      · rw [h, h', hfed]
      · exact absurd (hiff.1 he') he
    · rcases caughtUp hbs hd' with ⟨he', -⟩ | ⟨-, h'⟩
      · exact absurd (hiff.2 he) he'
      · rw [h, h', hfed]
  · intro before a after _
    exact admits s before a
  · rintro before after fault i rfl hread
    obtain ⟨lines, h⟩ := inserts_run hopen hend.of_append
    exact h.breaks hread

/-- A euro sign and a line end, both divided, an empty line, a line that is no response, and the
beginning of one more. -/
def choppedActions : List Action :=
  [.feed [48, 61, 80, 65, 83, 83, 61, 226, 130], .read, .feed [172, 13], .read,
    .feed [10, 10, 63, 10, 49, 61], .read, .read, .read, .read]

def wholeActions : List Action :=
  [.feed (fed choppedActions), .read, .read, .read, .read]

def brokenActions : List Action := choppedActions ++ [.finish (.broken ['x']), .read]

theorem lines_inserted_in_order_chopped :
    opened 0 ['v'] false = .ok newSession ∧ EndsOnce choppedActions ∧ EndsOnce brokenActions ∧
    newSession.inserted choppedActions = [⟨0, .pass, ['€']⟩] ∧
    newSession.inserted wholeActions = newSession.inserted choppedActions ∧
    newSession.inserted brokenActions = newSession.inserted choppedActions ∧
    (newSession.run brokenActions).channel.pending.closed = some (.readFailed ['x']) := by
  have hchopped : EndsOnce choppedActions := endsOnce_of_not_mem (by simp [choppedActions])
  have hwhole : EndsOnce wholeActions := endsOnce_of_not_mem (by simp [wholeActions])
  have hbroken : EndsOnce brokenActions :=
    endsOnce_of_not_mem (by simp [brokenActions, choppedActions])
  have caughtUp : CaughtUp newSession choppedActions :=
    ⟨by simp [choppedActions], Option.isNone_iff_eq_none.1 (by decide +kernel)⟩
  have caughtUp' : CaughtUp newSession wholeActions :=
    ⟨by simp [wholeActions], Option.isNone_iff_eq_none.1 (by decide +kernel)⟩
  obtain ⟨-, hlines, hsame, -⟩ := lines_inserted_in_order opened_newSession hchopped
  obtain ⟨-, -, -, -, hbreaks⟩ := lines_inserted_in_order opened_newSession hbroken
  have h := hbreaks (choppedActions ++ [.finish (.broken ['x'])]) [] ['x']
    { (newSession.run choppedActions).channel.inbox with
      unfinished := [], incoming := [], fault := some ['x'], stopped := true } rfl rfl
  refine ⟨opened_newSession, hchopped, hbroken, ?_, ?_, ?_, h.reason (by decide +kernel)⟩
  · rw [(hlines caughtUp).1 (by simp [choppedActions])]
    decide +kernel
  · exact hsame wholeActions hwhole rfl (by simp [wholeActions, choppedActions]) caughtUp caughtUp'
  · have hrests := h.rests
    rw [List.append_assoc] at hrests
    exact hrests.trans (by rw [inserted_concat]; simp [inserted?])

end Session

end RemoteInterpreter
