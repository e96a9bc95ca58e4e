import Mathlib.Data.List.Infix
import RemoteInterpreter.Proofs.Delivery

/-!
# What the interpreter receives

The lines of all commands that were sent, in the order in which they were sent, are one stream
of octets, and the interpreter has received the beginning of it. Cut at line feeds it gives
back the commands. An order to stop that meets the writer between two batches leaves what is
queued unwritten.
-/

namespace RemoteInterpreter

/-! Reading commands back -/

namespace Interpreter

/-- The complete lines of a stream of octets, cut at line feeds. -/
def cutLines (octets : Octets) : List Octets := (octets.splitOn Inbox.lineFeed).dropLast

/-- What the complete lines of a stream are read as. -/
def readLines (octets : Octets) : List (Except LineError Command) :=
  (cutLines octets).map fun line => Message.parse (Text.decodeLossy line)

variable {xs : Octets} {cs : List Command} {c : Command}

theorem cutLines_of_not_mem (h : Inbox.lineFeed ∉ xs) : cutLines xs = [] := by
  rw [cutLines, List.splitOn_eq_singleton h]
  rfl

theorem cutLines_cons {line : Octets} (h : Inbox.lineFeed ∉ line) (xs : Octets) :
    cutLines (line ++ Inbox.lineFeed :: xs) = line :: cutLines xs := by
  rw [cutLines, List.splitOn_append_cons_self_of_not_mem h,
    List.dropLast_cons_of_ne_nil (List.splitOn_ne_nil _ _)]
  rfl

theorem octets_append (c : Command) (xs : Octets) :
    Outbox.octets c ++ xs = Text.encode c.body ++ Inbox.lineFeed :: xs := by
  rw [Outbox.octets, Message.line, Text.encode_append, Text.encode_lineFeed, List.append_assoc]
  rfl

theorem lineFeed_not_mem_body (h : c.text.breaksLine = false) :
    Inbox.lineFeed ∉ Text.encode c.body :=
  mt Text.lineFeed_mem_encode_iff.1 (Text.breaksLine_eq_false_iff.1 (c.breaksLine_body h)).1

/-- A command is read from its line, whatever its source holds. -/
theorem readLines_octets (oneLine : c.text.breaksLine = false) (id : c.id < Message.idBound)
    (xs : Octets) : readLines (Outbox.octets c ++ xs) = .ok c :: readLines xs := by
  rw [readLines, octets_append, cutLines_cons (lineFeed_not_mem_body oneLine), List.map_cons,
    Text.decodeLossy_encode, Message.parse_body (c.breaksLine_body oneLine), if_pos id]
  rfl

/-- Of a stream of commands the complete ones are read, and the rest is a part of one line. -/
theorem readLines_commands (oneLine : ∀ c ∈ cs, c.text.breaksLine = false)
    (ids : ∀ c ∈ cs, c.id < Message.idBound) (h : xs <+: cs.flatMap Outbox.octets) :
    ∃ k rest, xs = (cs.take k).flatMap Outbox.octets ++ rest ∧ Inbox.lineFeed ∉ rest ∧
      readLines xs = (cs.take k).map .ok := by
  induction cs generalizing xs with
  | nil =>
    rw [List.flatMap_nil, List.prefix_nil] at h
    subst h
    exact ⟨0, [], rfl, List.not_mem_nil, rfl⟩
  | cons c cs ih =>
    have hline := oneLine c List.mem_cons_self
    rw [List.flatMap_cons, octets_append] at h
    rcases prefix_line_cases (lineFeed_not_mem_body hline) h with hnone | ⟨ys, rfl, hys⟩
    · refine ⟨0, xs, rfl, hnone, ?_⟩
      rw [readLines, cutLines_of_not_mem hnone]
      rfl
    · obtain ⟨k, rest, rfl, hrest, hread⟩ := ih (fun d hd => oneLine d (List.mem_cons_of_mem _ hd))
        (fun d hd => ids d (List.mem_cons_of_mem _ hd)) hys
      rw [← octets_append]
      refine ⟨k + 1, rest, ?_, hrest, ?_⟩
      · rw [List.take_succ_cons, List.flatMap_cons, List.append_assoc]
      · rw [readLines_octets hline (ids c List.mem_cons_self), hread, List.take_succ_cons,
          List.map_cons]

end Interpreter

/-! The writer at rest, and told to stop -/

namespace Outbox

variable {o : Outbox}

/-- The writer is between two batches and has been told to stop. -/
structure Halted (o : Outbox) : Prop where
  stopping : o.stopping = true
  idle : o.writing = false

theorem Halted.write (h : o.Halted) :
    o.write = .rested ∨ o.write = .moved { o with stopped := true } := by
  unfold Outbox.write
  split
  · exact Or.inl rfl
  · exact Or.inr (by simp [h.stopping, h.idle])

/-- Nothing more has been written, and the writer has still been told to stop. -/
structure Rests (o o' : Outbox) : Prop where
  halted : o'.Halted
  taken : o'.taken = o.taken
  octets : o'.received ++ o'.pipe = o.received ++ o.pipe

theorem Rests.trans {o' o'' : Outbox} (h : Rests o o') (h' : Rests o' o'') : Rests o o'' :=
  ⟨h'.halted, h'.taken.trans h.taken, h'.octets.trans h.octets⟩

theorem Halted.carry (h : o.Halted) (n : Nat) : Rests o (o.carry n) := by
  have hoctets := received_append_pipe_carry n o
  obtain ⟨pipe, received, heq⟩ := carry_eq n o
  rw [heq] at hoctets ⊢
  exact ⟨⟨h.stopping, h.idle⟩, rfl, hoctets⟩

/-- A writer that goes on but has no step has taken every line. -/
theorem getElem?_taken_of_rested (h : o.write = .rested) (running : o.stopped = false) :
    o.commands[o.taken]? = none := by
  unfold Outbox.write at h
  rw [running] at h
  split at h
  · contradiction
  · split at h
    · cases h
    · split at h
      · assumption
      · cases h
      · cases h
      · cases h

end Outbox

namespace Session

variable {s : Session} {a : Action} {as : List Action} {c : Command}
variable {number : Nat} {stem : Text} {debug : Bool}

theorem halted_act (h : s.channel.outbox.Halted) (a : Action) :
    Outbox.Rests s.channel.outbox (s.act a).channel.outbox := by
  rcases streams_act s a with hd | hp
  · generalize (s.act a).channel = c at hd
    cases hd with
    | writes write =>
      rcases h.write with hw | hw
      · rw [hw] at write
        cases write
      · rw [hw] at write
        cases write
        exact ⟨⟨h.stopping, h.idle⟩, rfl, rfl⟩
    | breaks write => rcases h.write with hw | hw <;> rw [hw] at write <;> cases write
    | carries n => exact h.carry n
    | kills => exact ⟨⟨rfl, h.idle⟩, rfl, rfl⟩
    | resumes => exact ⟨⟨rfl, h.idle⟩, rfl, rfl⟩
    | _ => exact ⟨⟨h.stopping, h.idle⟩, rfl, rfl⟩
  · rcases hp.outbox with heq | ⟨kind, source, heq⟩
    · rw [heq]
      exact ⟨h, rfl, rfl⟩
    · rw [heq]
      exact ⟨⟨h.stopping, h.idle⟩, rfl, rfl⟩

/-- Once it is told to stop between two batches the writer writes nothing more. -/
theorem halted_run (h : s.channel.outbox.Halted) (as : List Action) :
    Outbox.Rests s.channel.outbox (s.run as).channel.outbox := by
  induction as generalizing s with
  | nil => exact ⟨h, rfl, rfl⟩
  | cons a as ih =>
    have hstep := halted_act h a
    exact hstep.trans (ih hstep.halted)

/-- Nothing is sent on a closed channel. -/
theorem commands_of_isClosed (h : s.channel.isClosed = true) (as : List Action) :
    (s.run as).channel.outbox.commands = s.channel.outbox.commands := by
  induction as generalizing s with
  | nil => rfl
  | cons a as ih =>
    rw [run_cons, ih (isClosed_act h a), commands_act_of_isClosed h a]

/-! An open table has a writer -/

/-- As long as the table is open the writer goes on, and has not been told to stop. -/
def Attended (c : Channel Party) : Prop :=
  c.isClosed = false → c.outbox.stopping = false ∧ c.outbox.stopped = false

theorem attended_act (h : Attended s.channel) (a : Action) : Attended (s.act a).channel := by
  intro isOpen
  have before : s.channel.isClosed = false := by
    cases hclosed : s.channel.isClosed with
    | false => rfl
    | true => rw [isClosed_act hclosed a] at isOpen; cases isOpen
  obtain ⟨untold, running⟩ := h before
  rcases streams_act s a with hd | hp
  · generalize (s.act a).channel = c at hd isOpen
    cases hd with
    | kills => cases isOpen
    | heeds => cases isOpen
    | resumes => cases isOpen
    | breaks => cases isOpen
    | ends => cases isOpen
    | writes write =>
      have hw := s.channel.outbox.writes_write
      rw [write] at hw
      cases hw with
      | quits told => rw [untold] at told; cases told
      | flushes => exact ⟨untold, running⟩
      | takes => exact ⟨untold, running⟩
    | carries n =>
      obtain ⟨pipe, received, heq⟩ := Outbox.carry_eq n s.channel.outbox
      rw [Channel.carry, heq]
      exact ⟨untold, running⟩
    | _ => exact ⟨untold, running⟩
  · rcases hp.outbox with heq | ⟨kind, source, heq⟩ <;> rw [heq] <;> exact ⟨untold, running⟩

/-- A writer that has stopped has left a closed table behind, so no command is queued for it. -/
theorem isClosed_of_stopped (hopen : opened number stem debug = .ok s)
    (h : (s.run as).channel.outbox.stopped = true) : (s.run as).channel.isClosed = true := by
  have hattended : Attended (s.run as).channel :=
    run_preserves (I := fun t => Attended t.channel) (fun _ a ht => attended_act ht a)
      (by rw [channel_opened hopen]; exact fun _ => ⟨rfl, rfl⟩) as
  cases hclosed : (s.run as).channel.isClosed with
  | true => rfl
  | false => rw [(hattended hclosed).2] at h; cases h

/-! Sending -/

/-- The action sends this command, after so many others. -/
def SendsAs (i : Nat) (c : Command) (s : Session) (a : Action) : Prop :=
  s.channel.commandsSent = i ∧ Appends c s a

theorem commands_opened (hopen : opened number stem debug = .ok s) :
    s.channel.outbox.commands = [] := by
  rw [channel_opened hopen]
  rfl

theorem ordered_opened (hopen : opened number stem debug = .ok s) : s.channel.outbox.Ordered := by
  rw [channel_opened hopen]
  exact ⟨Nat.le_refl _, rfl⟩

/-- The commands of the queue are those that were sent, in their order. -/
theorem getElem?_commands_iff (hopen : opened number stem debug = .ok s) {i : Nat} :
    (s.run as).channel.outbox.commands[i]? = some c ↔ Happens (SendsAs i c) s as := by
  induction as using List.reverseRecOn with
  | nil => simp [commands_opened hopen]
  | append_singleton as a ih =>
    rw [happens_concat, ← ih, run_concat]
    rcases enqueues_act (s.run as) a with heq | ⟨uses, d, hd⟩
    · rw [heq]
      refine ⟨Or.inl, ?_⟩
      rintro (h | ⟨-, happends⟩)
      · exact h
      · rw [Appends, heq] at happends
        simp at happends
    · rw [hd.commands, List.getElem?_append]
      split
      · next hlt =>
        refine ⟨Or.inl, ?_⟩
        rintro (h | ⟨hi, -⟩)
        · exact h
        · exact absurd hlt (hi ▸ Nat.lt_irrefl _)
      · next hge =>
        have hnone : (s.run as).channel.outbox.commands[i]? = none :=
          List.getElem?_eq_none_iff.2 (Nat.le_of_not_lt hge)
        rw [hnone]
        constructor
        · intro hlast
          obtain ⟨hlt, hget⟩ := List.getElem?_eq_some_iff.1 hlast
          have hi : (s.run as).channel.outbox.commands.length = i := by
            rw [List.length_singleton] at hlt
            omega
          have hdc : d = c := by simpa using hget
          exact Or.inr ⟨hi, hdc ▸ hd.commands⟩
        · rintro (h | ⟨hi, happends⟩)
          · cases h
          · have hcd : [d] = [c] := List.append_cancel_left (hd.commands.symm.trans happends)
            rw [hcd, ← hi, Channel.commandsSent, Nat.sub_self]
            rfl

/-- An action sends one command or none, and sends on an open channel only. -/
theorem sendsAs_act (s : Session) (a : Action) :
    (s.act a).channel.outbox.commands = s.channel.outbox.commands ∨
      ∃ c, SendsAs c.id c s a ∧ c.text.breaksLine = false ∧ s.channel.isClosed = false := by
  rcases enqueues_act s a with heq | ⟨uses, c, hc⟩
  · exact Or.inl heq
  · refine Or.inr ⟨c, ⟨hc.id.symm, hc.commands⟩, hc.oneLine, ?_⟩
    simp [Channel.isClosed, Pending.isClosed, hc.isOpen]

/-- A command whose source breaks its line is refused, and so is every command on a closed channel;
what is refused changes nothing. Any other command gets the next id and a place at the end of the
queue. -/
theorem send_outcome (kind : Kind) (source : Text) (c : Channel Party) :
    (source.breaksLine = true ∨ c.isClosed = true) ∧ (∃ e, c.send kind source = (c, .error e)) ∨
    source.breaksLine = false ∧ c.isClosed = false ∧
      c.send kind source =
        ({ c with outbox := c.outbox.enqueue kind source }, .ok c.commandsSent) := by
  cases hline : source.breaksLine with
  | true => exact Or.inl ⟨Or.inl rfl, _, Channel.send_of_breaksLine hline kind c⟩
  | false =>
    cases hclosed : c.pending.closed with
    | some reason =>
      refine Or.inl ⟨Or.inr ?_, _, Channel.send_of_closed hline hclosed kind⟩
      simp [Channel.isClosed, Pending.isClosed, hclosed]
    | none =>
      refine Or.inr ⟨rfl, ?_, Channel.send_of_open hline hclosed kind⟩
      simp [Channel.isClosed, Pending.isClosed, hclosed]

/-! What has been received -/

/-- The writer rests but has not stopped, and the far end has read whatever came. -/
structure Drained (c : Channel Party) : Prop where
  writer : c.write? = none
  running : c.outbox.stopped = false
  reading : c.outbox.refusal = none
  carried : ∀ n, c.carry n = c

theorem received_of_drained (ho : s.channel.outbox.Ordered) (h : Drained s.channel) :
    s.channel.outbox.received = s.channel.outbox.commands.flatMap Outbox.octets := by
  have hwrite : s.channel.outbox.write = .rested := by
    have hnone := h.writer
    unfold Channel.write? at hnone
    split at hnone
    · assumption
    · cases hnone
    · cases hnone
  have hall : s.channel.outbox.commands.length ≤ s.channel.outbox.taken :=
    List.getElem?_eq_none_iff.1 (Outbox.getElem?_taken_of_rested hwrite h.running)
  have hpipe : s.channel.outbox.pipe = [] := by
    have hcarry := congrArg (fun c => c.outbox.received) (h.carried s.channel.outbox.pipe.length)
    simpa [Channel.carry, Outbox.carry, h.reading] using hcarry
  have hoctets := ho.octets
  rwa [hpipe, List.append_nil, List.take_of_length_le hall] at hoctets

theorem prefix_received (ho : s.channel.outbox.Ordered) :
    s.channel.outbox.received <+:
      (s.channel.outbox.commands.take s.channel.outbox.taken).flatMap Outbox.octets :=
  ⟨s.channel.outbox.pipe, ho.octets⟩

/-- Only a carry lets the interpreter receive anything. -/
theorem received_act (h : ∀ n, a ≠ .carry n) (s : Session) :
    (s.act a).channel.outbox.received = s.channel.outbox.received := by
  rcases streams_act s a with hd | hp
  · generalize (s.act a).channel = c at hd
    cases hd with
    | carries n => exact absurd rfl (h n)
    | writes write =>
      have hw := s.channel.outbox.writes_write
      rw [write] at hw
      cases hw <;> rfl
    | breaks write =>
      have hw := s.channel.outbox.writes_write
      rw [write] at hw
      cases hw
      rfl
    | _ => rfl
  · rcases hp.outbox with heq | ⟨kind, source, heq⟩ <;> rw [heq]
    rfl

/-- What was received is the beginning of the lines of all commands. -/
theorem prefix_received_run (hopen : opened number stem debug = .ok s) (as : List Action) :
    (s.run as).channel.outbox.received <+:
      (s.run as).channel.outbox.commands.flatMap Outbox.octets :=
  (prefix_received (ordered_run (ordered_opened hopen) as)).trans
    (List.IsPrefix.flatMap (List.take_prefix _ _) _)

/-- What was received gives back the commands whose lines are complete. -/
theorem readLines_received (hopen : opened number stem debug = .ok s)
    (bound : (s.run as).channel.commandsSent ≤ Message.idBound) :
    ∃ k rest, (s.run as).channel.outbox.received =
        ((s.run as).channel.outbox.commands.take k).flatMap Outbox.octets ++ rest ∧
      Inbox.lineFeed ∉ rest ∧
      Interpreter.readLines (s.run as).channel.outbox.received =
        ((s.run as).channel.outbox.commands.take k).map .ok := by
  have hnumbered := (numbered_opened hopen).run as
  refine Interpreter.readLines_commands hnumbered.oneLine ?_ (prefix_received_run hopen as)
  intro c hc
  exact Nat.lt_of_lt_of_le (hnumbered.lt hc) bound

/-- The action tells the writer to stop: a kill that has no monitor to wait for, or one whose
monitor has come to its end. -/
def Stops (s : Session) : Action → Prop
  | .kill => s.channel.monitor.taken? = none
  | .resume => s.channel.monitor = .over
  | _ => False

theorem act_of_stops (h : Stops s a) : ∃ m, s.act a =
    { s with channel := { s.channel.shut with monitor := m } } := by
  cases a with
  | kill =>
    have htaken : s.channel.monitor.taken? = none := h
    exact ⟨s.channel.monitor, by simp only [act, Channel.kill, htaken]; rfl⟩
  | resume =>
    have hover : s.channel.monitor = .over := h
    exact ⟨.absent, by simp [act, Channel.resume, hover]⟩
  | _ => exact h.elim

/-- An order to stop that comes between two batches leaves the queue as it is, and what is queued
then is never written: what is received or on its way are the lines that had been taken. -/
theorem received_of_stop (hopen : opened number stem debug = .ok s) {before after : List Action}
    (stops : Stops (s.run before) a) (idle : (s.run before).channel.outbox.writing = false) :
    (s.run (before ++ a :: after)).channel.outbox.commands =
      (s.run before).channel.outbox.commands ∧
    (s.run (before ++ a :: after)).channel.outbox.received ++
        (s.run (before ++ a :: after)).channel.outbox.pipe =
      ((s.run before).channel.outbox.commands.take
        (s.run before).channel.outbox.taken).flatMap Outbox.octets := by
  rw [run_append, run_cons]
  have hordered : (((s.run before).act a).run after).channel.outbox.Ordered :=
    ordered_run (ordered_act (ordered_run (ordered_opened hopen) before) a) after
  obtain ⟨m, hact⟩ := act_of_stops stops
  rw [hact] at hordered ⊢
  have hrests := halted_run (s := { s.run before with
    channel := { (s.run before).channel.shut with monitor := m } }) ⟨rfl, idle⟩ after
  have hcommands := commands_of_isClosed (s := { s.run before with
    channel := { (s.run before).channel.shut with monitor := m } }) rfl after
  have hoctets := hordered.octets
  rw [hrests.taken, hcommands] at hoctets
  exact ⟨hcommands, hoctets⟩

/-! The whole picture -/

/-- However callers, bindings and writer take turns, the interpreter has received the beginning of
the lines of all commands that were sent, which are numbered in the order in which they were sent;
what is refused gets no number and is not queued. Read line by line, what was received gives back
these commands. All of them have been received when the writer rests without having stopped and
the interpreter reads on; what is queued when a kill tells the writer to stop between two batches is
never written. -/
theorem received_in_order (hopen : opened number stem debug = .ok s) (as : List Action) :
    (s.run as).channel.outbox.received <+:
      (s.run as).channel.outbox.commands.flatMap Outbox.octets ∧
    (∀ i c, (s.run as).channel.outbox.commands[i]? = some c ↔ Happens (SendsAs i c) s as) ∧
    (∀ i c, (s.run as).channel.outbox.commands[i]? = some c →
      c.id = i ∧ Outbox.octets c = Text.encode
        (Numeral.write i ++ '=' :: (LineTag.spelling c.tag ++ '=' :: c.text) ++ ['\n'])) ∧
    (∀ kind source,
      (source.breaksLine = true ∨ (s.run as).channel.isClosed = true) ∧
        (∃ e, (s.run as).channel.send kind source = ((s.run as).channel, .error e)) ∨
      source.breaksLine = false ∧ (s.run as).channel.isClosed = false ∧
        (s.run as).channel.send kind source =
          ({ (s.run as).channel with outbox := (s.run as).channel.outbox.enqueue kind source },
            .ok (s.run as).channel.commandsSent)) ∧
    (∀ a, (s.run (as ++ [a])).channel.outbox.commands = (s.run as).channel.outbox.commands ∨
      ∃ c, SendsAs c.id c (s.run as) a ∧ c.text.breaksLine = false ∧
        (s.run as).channel.isClosed = false) ∧
    ((s.run as).channel.commandsSent ≤ Message.idBound →
      ∃ k rest, (s.run as).channel.outbox.received =
          ((s.run as).channel.outbox.commands.take k).flatMap Outbox.octets ++ rest ∧
        Inbox.lineFeed ∉ rest ∧
        Interpreter.readLines (s.run as).channel.outbox.received =
          ((s.run as).channel.outbox.commands.take k).map .ok) ∧
    (Drained (s.run as).channel →
      (s.run as).channel.outbox.received =
        (s.run as).channel.outbox.commands.flatMap Outbox.octets) ∧
    (∀ before a after, as = before ++ a :: after → Stops (s.run before) a →
      (s.run before).channel.outbox.writing = false →
      (s.run as).channel.outbox.commands = (s.run before).channel.outbox.commands ∧
      (s.run as).channel.outbox.received ++ (s.run as).channel.outbox.pipe =
        ((s.run before).channel.outbox.commands.take
          (s.run before).channel.outbox.taken).flatMap Outbox.octets) := by
  have hnumbered := (numbered_opened hopen).run as
  have hordered := ordered_run (ordered_opened hopen) as
  refine ⟨prefix_received_run hopen as, ?_, ?_, ?_, ?_, readLines_received hopen,
    received_of_drained hordered, ?_⟩
  · exact fun i c => getElem?_commands_iff hopen
  · intro i c hc
    obtain rfl := hnumbered.ids hc
    exact ⟨rfl, rfl⟩
  · exact fun kind source => send_outcome kind source _
  · intro a
    rw [run_concat]
    exact sendsAs_act (s.run as) a
  · rintro before a after rfl stops idle
    exact received_of_stop hopen stops idle

/-- A command is received, and the channel is killed before the next one is taken. -/
def cutOffActions : List Action :=
  [.send .exec ['a', '=', '1'], .write, .write, .carry 99, .send .eval ['a'], .kill, .write, .write,
    .carry 99]

theorem received_in_order_cut_off :
    opened 0 ['v'] false = .ok newSession ∧
    (newSession.run cutOffActions).channel.commandsSent = 2 ∧
    ∃ k rest, (newSession.run cutOffActions).channel.outbox.received =
        ((newSession.run cutOffActions).channel.outbox.commands.take k).flatMap Outbox.octets ++
          rest ∧
      Interpreter.readLines (newSession.run cutOffActions).channel.outbox.received =
        ((newSession.run cutOffActions).channel.outbox.commands.take k).map .ok ∧
      (newSession.run cutOffActions).channel.outbox.received ++
          (newSession.run cutOffActions).channel.outbox.pipe =
        ((newSession.run (cutOffActions.take 5)).channel.outbox.commands.take
          (newSession.run (cutOffActions.take 5)).channel.outbox.taken).flatMap Outbox.octets := by
  have hsent : (newSession.run cutOffActions).channel.commandsSent = 2 := by decide +kernel
  obtain ⟨-, -, -, -, -, hread, -, hstop⟩ := received_in_order opened_newSession cutOffActions
  obtain ⟨k, rest, hreceived, -, hlines⟩ := hread (by rw [hsent]; decide)
  exact ⟨opened_newSession, hsent, k, rest, hreceived, hlines,
    (hstop (cutOffActions.take 5) .kill (cutOffActions.drop 6) rfl rfl (by decide +kernel)).2⟩

/-- A command is queued for a process. -/
def queuedActions : List Action := [.attach, .send .eval ['x']]

/-- While the kill waits for the monitor the writer goes on, and the process reads. -/
def awaitedEnd : List Action := [.write, .write, .carry 99, .heed, .exit, .resume, .write]

/-- A kill that has to wait for a monitor does not keep the writer from what is queued. -/
theorem written_after_kill :
    ¬ ∀ (number : Nat) (stem : Text) (debug : Bool) (s : Session) (before after : List Action),
      opened number stem debug = .ok s → (s.run before).channel.outbox.writing = false →
      (s.run (before ++ .kill :: after)).channel.outbox.received ++
          (s.run (before ++ .kill :: after)).channel.outbox.pipe =
        ((s.run before).channel.outbox.commands.take
          (s.run before).channel.outbox.taken).flatMap Outbox.octets := by
  intro h
  have hreceived : (newSession.run (queuedActions ++ .kill :: awaitedEnd)).channel.outbox.received =
      [48, 61, 69, 86, 65, 76, 61, 120, 10] := by decide +kernel
  have hnothing := h 0 ['v'] false newSession queuedActions awaitedEnd opened_newSession rfl
  rw [hreceived] at hnothing
  cases hnothing

end Session

end RemoteInterpreter
