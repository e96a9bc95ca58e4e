import RemoteInterpreter.Proofs.Framing
import RemoteInterpreter.Proofs.Growth

/-!
# The streams of a channel

Callers touch the streams in one way only: they queue a command. Whatever the interpreter
has received is the beginning of the lines of all commands, in their order, so it reads
no command but those that were queued.
-/

namespace RemoteInterpreter

/-! What the interpreter reads -/

namespace Outbox

/-- What has left the queue are the lines of its first commands. -/
structure Ordered (o : Outbox) : Prop where
  taken : o.taken ≤ o.commands.length
  octets : o.received ++ o.pipe = (o.commands.take o.taken).flatMap octets

variable {o o' : Outbox}

theorem Ordered.enqueue (h : o.Ordered) (kind : Kind) (source : Text) :
    (o.enqueue kind source).Ordered := by
  refine ⟨?_, ?_⟩
  · rw [length_commands_enqueue]
    exact Nat.le_succ_of_le h.taken
  · show o.received ++ o.pipe = ((o.commands ++ _).take o.taken).flatMap Outbox.octets
    rw [List.take_append_of_le_length h.taken, h.octets]

/-- The writer does not see what leaves the pipe. -/
theorem carry_eq (n : Nat) (o : Outbox) :
    ∃ pipe received, o.carry n = { o with pipe := pipe, received := received } := by
  unfold Outbox.carry
  split
  · exact ⟨_, _, rfl⟩
  · exact ⟨_, _, rfl⟩

theorem Ordered.carry (h : o.Ordered) (n : Nat) : (o.carry n).Ordered := by
  have hoctets := received_append_pipe_carry n o
  obtain ⟨pipe, received, heq⟩ := carry_eq n o
  rw [heq] at hoctets ⊢
  exact ⟨h.taken, hoctets.trans h.octets⟩

theorem Ordered.takes (h : o.Ordered) {c : Command} (next : o.commands[o.taken]? = some c) :
    ({ o with taken := o.taken + 1, pipe := o.pipe ++ Outbox.octets c, writing := true } :
      Outbox).Ordered := by
  refine ⟨(List.getElem?_eq_some_iff.1 next).1, ?_⟩
  show o.received ++ (o.pipe ++ Outbox.octets c) =
    (o.commands.take (o.taken + 1)).flatMap Outbox.octets
  rw [List.take_add_one, next, ← List.append_assoc, h.octets]
  simp

theorem Ordered.writes (h : o.Ordered) :
    (∀ {o'}, o.write = .moved o' → o'.Ordered) ∧
    ∀ {fault o'}, o.write = .failed fault o' → o'.Ordered := by
  have hw := o.writes_write
  generalize o.write = m at hw
  constructor
  · rintro o' rfl
    cases hw with
    | quits => exact ⟨h.taken, h.octets⟩
    | flushes => exact ⟨h.taken, h.octets⟩
    | takes next => exact h.takes next
  · rintro fault o' rfl
    cases hw
    exact ⟨h.taken, h.octets⟩

end Outbox

namespace Session

variable {s t : Session} {p : Party} {n : Nat} {a : Action} {as : List Action}

/-- The reading side and the monitor stay, and at most one command is queued. -/
structure Posts (c c' : Channel Party) : Prop where
  inbox : c'.inbox = c.inbox
  monitor : c'.monitor = c.monitor
  outbox : c'.outbox = c.outbox ∨ ∃ kind source, c'.outbox = c.outbox.enqueue kind source

theorem Posts.refl (c : Channel Party) : Posts c c := ⟨rfl, rfl, Or.inl rfl⟩

theorem posts_send (kind : Kind) (source : Text) (c : Channel Party) :
    Posts c (c.send kind source).1 := by
  rcases send_cases kind source c with ⟨e, -, h⟩ | ⟨-, -, h⟩
  · rw [h]
    exact .refl c
  · rw [h]
    exact ⟨rfl, rfl, Or.inr ⟨kind, source, rfl⟩⟩

theorem Binds.posts {x : Expression} {running : Bool} {c : Channel Party} {b : Binding}
    (h : Binds s x running c b) : Posts s.channel c := by
  cases h with
  | outside => exact .refl _
  | atOnce => exact posts_send _ _ _
  | deferred => exact .refl _

theorem posts_bind (running : Bool) (x : Expression) (s : Session) :
    Posts s.channel (s.bind running x).channel := by
  obtain ⟨c, b, hb, heq⟩ := bind_eq running x s
  rw [heq]
  exact hb.posts

theorem Errand.Moves.posts {e : Errand} {resolution : Nat → Option (Except Error Text)}
    {c c' : Channel Party} {stage : Stage} (h : Errand.Moves p resolution c e c' stage) :
    Posts c c' := by
  cases h with
  | sends => exact posts_send _ _ _
  | _ => exact ⟨rfl, rfl, Or.inl rfl⟩

/-- A call that was answered queues no command itself, so that at most the module which it imports
is sent. -/
theorem Settles.posts {k : Call} {c : Channel Party} {stage : Stage}
    (h : Settles (s.moved (.call n) c stage) n (k.atStage stage) t)
    (moves : Errand.Moves (.call n) s.resolution? s.channel k.errand c stage) :
    Posts s.channel t.channel := by
  have moved : Posts s.channel (s.moved (.call n) c stage).channel := by
    rw [channel_moved]
    exact moves.posts
  cases h with
  | waits => exact moved
  | @imports text name x _ hx =>
    have hp := posts_bind true x (s.moved (.call n) c stage)
    rw [channel_putCall]
    refine ⟨hp.inbox.trans moved.inbox, hp.monitor.trans moved.monitor, ?_⟩
    have houtbox := moves.outbox_of_result hx
    simpa [houtbox] using hp.outbox
  | evaluates =>
    rw [channel_putCall, channel_markEvaluated]
    exact moved
  | _ => exact moved

/-- Whatever is not done by reader, writer or far end posts at most one command. -/
theorem streams_act (s : Session) (a : Action) :
    Drives s.channel a (s.act a).channel ∨ Posts s.channel (s.act a).channel := by
  have ha := acts_act s a
  generalize s.act a = t at ha
  cases ha with
  | builds => exact Or.inr (posts_bind _ _ s)
  | sends => exact Or.inr (posts_send _ _ _)
  | drives hd => exact Or.inl hd
  | binds _ moves =>
    rw [channel_moved]
    exact Or.inr moves.posts
  | @stores n k e rest =>
    have hst := stores_store n k e rest s
    generalize s.store n k e rest = t at hst
    cases hst with
    | silently => exact Or.inr (.refl _)
    | sending => exact Or.inr (posts_send _ _ _)
  | settles _ _ moves hs => exact Or.inr (hs.posts moves)
  | _ => exact Or.inr ⟨rfl, rfl, Or.inl rfl⟩

theorem ordered_act (h : s.channel.outbox.Ordered) (a : Action) :
    (s.act a).channel.outbox.Ordered := by
  rcases streams_act s a with hd | hp
  · generalize (s.act a).channel = c at hd
    cases hd with
    | kills => exact ⟨h.taken, h.octets⟩
    | resumes => exact ⟨h.taken, h.octets⟩
    | writes write => exact h.writes.1 write
    | breaks write => exact h.writes.2 write
    | carries n => exact h.carry n
    | stopsReceiving => exact ⟨h.taken, h.octets⟩
    | _ => exact h
  · rcases hp.outbox with heq | ⟨kind, source, heq⟩
    · rw [heq]
      exact h
    · rw [heq]
      exact h.enqueue kind source

theorem ordered_run (h : s.channel.outbox.Ordered) (as : List Action) :
    (s.run as).channel.outbox.Ordered :=
  run_preserves (I := fun t => t.channel.outbox.Ordered) (fun _ a ht => ordered_act ht a) h as

/-- The commands that the interpreter finds in what it has received. -/
def commandsRead (s : Session) : List Command :=
  (Interpreter.linesOf s.channel.outbox.received).filterMap fun line =>
    (Message.parse (τ := Kind) line).toOption

/-- Whatever the interpreter reads was queued. -/
theorem mem_commands_of_read {c : Command} (hs : s.Numbered) (ho : s.channel.outbox.Ordered)
    (h : c ∈ s.commandsRead) : c ∈ s.channel.outbox.commands ∧ c.id < Message.idBound := by
  have hpre : s.channel.outbox.received <+:
      (s.channel.outbox.commands.take s.channel.outbox.taken).flatMap Outbox.octets :=
    ⟨_, ho.octets⟩
  obtain ⟨k, hk⟩ := Interpreter.linesOf_commands
    (fun d hd => hs.oneLine d (List.mem_of_mem_take hd)) hpre
  obtain ⟨line, hline, hparse⟩ := List.mem_filterMap.1 h
  rw [hk] at hline
  obtain ⟨d, hd, rfl⟩ := List.mem_map.1 hline
  have hd := List.mem_of_mem_take (List.mem_of_mem_take hd)
  rw [Message.parse_body (Command.breaksLine_body (hs.oneLine d hd))] at hparse
  split at hparse
  · next hid =>
    cases hparse
    exact ⟨hd, hid⟩
  · cases hparse

end Session

end RemoteInterpreter
