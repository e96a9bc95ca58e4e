import RemoteInterpreter.Proofs.Event

/-!
# The queue of commands

An action queues at most one command, and only a few kinds of actions do. What is queued
on behalf of a party waits until the handles that the party uses are bound; nothing is
queued once the table of responses is closed. The id of a command is its position.
-/

namespace RemoteInterpreter

/-! The writer -/

/-- What the writer can do. -/
inductive Outbox.Writes (o : Outbox) : Outbox.Move → Prop
  | rests : Outbox.Writes o .rested
  | quits (told : o.stopping = true) : Outbox.Writes o (.moved { o with stopped := true })
  | flushes : Outbox.Writes o (.moved { o with writing := false })
  | takes {c} (next : o.commands[o.taken]? = some c) :
    Outbox.Writes o
      (.moved { o with taken := o.taken + 1, pipe := o.pipe ++ octets c, writing := true })
  | fails {fault} : Outbox.Writes o (.failed fault { o with stopped := true, writing := false })

theorem Outbox.writes_write (o : Outbox) : o.Writes o.write := by
  unfold Outbox.write
  split
  · exact .rests
  · split
    · next h => exact .quits (Bool.and_eq_true_iff.1 h).2
    · split
      · exact .rests
      · exact .flushes
      · next h _ => exact .takes h
      · exact .fails

namespace Session

variable {s t : Session} {p : Party} {n : Nat} {a : Action} {c : Command}

/-- The writer and everything behind it leave the queue as it is. -/
theorem Drives.commands {c c' : Channel Party} (h : Drives c a c') :
    c'.outbox.commands = c.outbox.commands := by
  cases h with
  | @writes o write =>
    have hw := c.outbox.writes_write
    rw [write] at hw
    cases hw <;> rfl
  | @breaks fault o write =>
    have hw := c.outbox.writes_write
    rw [write] at hw
    cases hw
    rfl
  | carries => exact Outbox.commands_carry _ _
  | _ => rfl

/-! Who sends -/

/-- An action that may send this command, in whose name, and which handles are bound then. -/
inductive Sending (s : Session) : Action → Option Party → List Nat → Kind → Text → Prop
  | builds {running d x} (compose : Expression.compose s.number d = .ok x)
      (bound : ∀ m ∈ Binding.uses x, s.isBound m = true) :
    Sending s (.build running d) (some (.binding s.built)) (Binding.uses x) .exec
      (Binding.source (s.handleAt s.built) x)
  | imports {n x} (uses : x.uses = []) :
    Sending s (.advance (.call n)) (some (.binding s.built)) [] .exec
      (Binding.source (s.handleAt s.built) x)
  | goes {p e kind source} (errand : s.errand? p = some e) (stage : e.stage = .held)
      (joined : Joined.all (e.uses.map s.resolution?) = .ready)
      (command : e.command = some (kind, source)) :
    Sending s (.advance p) (some p) e.uses kind source
  | stores {n k e rest encoder} (call : s.calls n = some k)
      (goal : k.goal = .installed (e :: rest)) (stage : k.errand.stage = .held)
      (encodes : e.encoder = some encoder) :
    Sending s (.advance (.call n)) (some (.call n)) [] .exec (registration e.tag encoder)
  | directly (kind source) : Sending s (.send kind source) none [] kind source

/-- The action queues this command, and its sender waits for the answer to it. -/
structure Enqueues (s : Session) (a : Action) (uses : List Nat) (c : Command) : Prop where
  sending : Sending s a (s.sender? a) uses c.tag c.text
  id : c.id = s.channel.commandsSent
  oneLine : c.text.breaksLine = false
  isOpen : s.channel.pending.closed = none
  commands : (s.act a).channel.outbox.commands = s.channel.outbox.commands ++ [c]
  awaited : ∀ p, s.sender? a = some p → ∃ e, (s.act a).errand? p = some e ∧
    e.stage = .sent (.ok c.id) ∧ ∀ n, p = .binding n → e.uses = uses

theorem sender?_of_built (h : (s.act a).built = s.built + 1) :
    s.sender? a = some (.binding s.built) := by
  simp [sender?, h]

theorem sender?_advance (h : (s.act (.advance p)).built = s.built) :
    s.sender? (.advance p) = some p := by
  simp [sender?, h]

/-- What is sent is queued or refused. -/
theorem enqueues_of_send {q : Option Party} {uses : List Nat} {kind : Kind} {source : Text}
    (sender : s.sender? a = q) (sending : Sending s a q uses kind source)
    (outbox : (s.act a).channel.outbox = (s.channel.send kind source).1.outbox)
    (awaited : ∀ p, q = some p → ∃ e, (s.act a).errand? p = some e ∧
      e.stage = .sent (s.channel.send kind source).2 ∧ ∀ n, p = .binding n → e.uses = uses) :
    (s.act a).channel.outbox.commands = s.channel.outbox.commands ∨
      ∃ uses c, Enqueues s a uses c := by
  rcases send_cases kind source s.channel with ⟨e, -, he⟩ | ⟨hline, hopen, hs⟩
  · rw [he] at outbox
    exact Or.inl (by rw [outbox])
  · rw [hs] at outbox awaited
    subst sender
    exact Or.inr ⟨uses, ⟨_, kind, source⟩, sending, rfl, hline, hopen, by rw [outbox]; rfl, awaited⟩

theorem enqueues_of_binds {running : Bool} {x : Expression} {c : Channel Party} {b : Binding}
    (binds : Binds s x running c b) (outbox : (s.act a).channel.outbox = c.outbox)
    (built : (s.act a).built = s.built + 1)
    (errand : (s.act a).errand? (.binding s.built) = some b.errand)
    (sending : (∀ m ∈ Binding.uses x, s.isBound m = true) →
      Sending s a (some (.binding s.built)) (Binding.uses x) .exec
        (Binding.source (s.handleAt s.built) x)) :
    (s.act a).channel.outbox.commands = s.channel.outbox.commands ∨
      ∃ uses c, Enqueues s a uses c := by
  cases binds with
  | outside => exact Or.inl (by rw [outbox])
  | deferred => exact Or.inl (by rw [outbox])
  | atOnce bound =>
    refine enqueues_of_send (sender?_of_built built) (sending bound) outbox ?_
    rintro p hp
    cases hp
    exact ⟨_, errand, rfl, fun _ _ => rfl⟩

theorem enqueues_of_moves {e : Errand} {c : Channel Party} {stage : Stage}
    (errand : s.errand? p = some e) (moves : Errand.Moves p s.resolution? s.channel e c stage)
    (built : (s.act (.advance p)).built = s.built)
    (outbox : (s.act (.advance p)).channel.outbox = c.outbox)
    (after : (s.act (.advance p)).errand? p = some { e with stage := stage }) :
    (s.act (.advance p)).channel.outbox.commands = s.channel.outbox.commands ∨
      ∃ uses c, Enqueues s (.advance p) uses c := by
  rcases moves.outbox with h | ⟨kind, source, hstage, joined, command, rfl, rfl⟩
  · exact Or.inl (by rw [outbox, h])
  · refine enqueues_of_send (sender?_advance built) (.goes errand hstage joined command) outbox ?_
    rintro q hq
    cases hq
    exact ⟨_, after, rfl, fun _ _ => rfl⟩

/-- A call that was answered queues nothing itself; the module that it imports may be bound at
once. -/
theorem enqueues_of_settles {k : Call} {c : Channel Party} {stage : Stage} {s' : Session}
    (call : s.calls n = some k)
    (moves : Errand.Moves (.call n) s.resolution? s.channel k.errand c stage)
    (hs : Settles (s.moved (.call n) c stage) n (k.atStage stage) s')
    (heq : s.act (.advance (.call n)) = s') :
    (s.act (.advance (.call n))).channel.outbox.commands = s.channel.outbox.commands ∨
      ∃ uses c, Enqueues s (.advance (.call n)) uses c := by
  have ends : ∀ {x}, stage.result? = some x → s'.channel.outbox = c.outbox →
      (s.act (.advance (.call n))).channel.outbox.commands = s.channel.outbox.commands := by
    intro x hx hc
    rw [heq, hc, moves.outbox_of_result hx]
  cases hs with
  | waits =>
    refine enqueues_of_moves (e := k.errand) (by simp [call]) moves (by rw [heq, built_moved])
      (by rw [heq, channel_moved]) ?_
    rw [heq, errand?_moved, if_pos rfl, errand?_call, call]
    rfl
  | @shows r _ hstage =>
    have hx : stage.result? = some (r.outcome.mapError .channel) := by
      rw [show stage = .answered r from hstage]
      rfl
    exact Or.inl (ends hx (by simp))
  | fails _ hx => exact Or.inl (ends hx (by simp))
  | concludes _ hx => exact Or.inl (ends hx (by simp))
  | misnamed _ hx => exact Or.inl (ends hx (by simp))
  | evaluates _ hx => exact Or.inl (ends hx (by simp))
  | goesOn _ hx => exact Or.inl (ends hx (by simp))
  | @imports text name x _ hx compose =>
    obtain ⟨c', b, hb, hbind⟩ := bind_eq true x (s.moved (.call n) c stage)
    have huses := uses_of_compose_nil compose
    obtain ⟨hc', hb'⟩ := hb.eq_of_uses_nil huses
    rw [channel_moved, handleAt_moved, built_moved] at hc' hb'
    have houtbox := moves.outbox_of_result hx
    refine enqueues_of_send (sender?_of_built (by rw [heq]; simp)) (.imports huses) ?_ ?_
    · rw [heq, channel_putCall, hbind]
      show c'.outbox = _
      rw [hc']
      exact outbox_send_congr houtbox moves.closed _ _
    · rintro p hp
      cases hp
      refine ⟨b.errand, ?_, ?_, ?_⟩
      · rw [heq, errand?_putCall, if_neg nofun, hbind, errand?_addBinding]
        simp
      · rw [hb']
        exact congrArg Stage.sent (ticket_send_congr houtbox moves.closed _ _)
      · intro m _
        rw [hb']
        simp [Binding.errandAt, Binding.uses, huses]

theorem enqueues_of_stores {k : Call} {e : Entry} {rest : List Entry} {s' : Session}
    (call : s.calls n = some k) (goal : k.goal = .installed (e :: rest))
    (stage : k.errand.stage = .held) (hst : Stores s n k e rest s')
    (heq : s.act (.advance (.call n)) = s') :
    (s.act (.advance (.call n))).channel.outbox.commands = s.channel.outbox.commands ∨
      ∃ uses c, Enqueues s (.advance (.call n)) uses c := by
  cases hst with
  | silently => exact Or.inl (by rw [heq]; rfl)
  | sending encodes =>
    refine enqueues_of_send (sender?_advance (by rw [heq]; rfl))
      (.stores call goal stage encodes) (by rw [heq]; rfl) ?_
    rintro p hp
    cases hp
    exact ⟨_, by rw [heq, errand?_putCall, if_pos rfl], rfl, nofun⟩

/-- An action queues one command, or none. -/
theorem enqueues_act (s : Session) (a : Action) :
    (s.act a).channel.outbox.commands = s.channel.outbox.commands ∨
      ∃ uses c, Enqueues s a uses c := by
  have ha := acts_act s a
  generalize heq : s.act a = s' at ha
  rw [← heq]
  cases ha with
  | idles => exact Or.inl (by rw [heq])
  | @builds running d x compose =>
    obtain ⟨c, b, hb, hbind⟩ := bind_eq running x s
    refine enqueues_of_binds hb (by rw [heq, hbind]; rfl) (by rw [heq, built_bind]) ?_
      (.builds compose)
    rw [heq, hbind, errand?_addBinding]
    simp
  | begins => exact Or.inl (by rw [heq]; rfl)
  | drops => exact Or.inl (by rw [heq]; rfl)
  | sends kind source =>
    exact enqueues_of_send (by simp [sender?, act]) (.directly kind source) rfl nofun
  | registers => exact Or.inl (by rw [heq]; rfl)
  | drives hd => exact Or.inl (by rw [heq]; exact hd.commands)
  | binds errand moves =>
    refine enqueues_of_moves errand moves (by rw [heq, built_moved]) (by rw [heq, channel_moved]) ?_
    rw [heq, errand?_moved, if_pos rfl, errand]
    rfl
  | completes => exact Or.inl (by rw [heq]; rfl)
  | stores call _ goal stage =>
    exact enqueues_of_stores call goal stage (stores_store _ _ _ _ s) heq
  | settles call _ moves hs => exact enqueues_of_settles call moves hs heq

/-- A command that is queued in the name of a party has been sent for it. -/
theorem Queues.enqueues (h : Queues p c s a) : ∃ uses, Enqueues s a uses c := by
  rcases enqueues_act s a with heq | ⟨uses, d, hd⟩
  · rw [h.2] at heq
    simp at heq
  · have hcd : [c] = [d] := List.append_cancel_left (h.2.symm.trans hd.commands)
    cases hcd
    exact ⟨uses, hd⟩

end Session

end RemoteInterpreter
