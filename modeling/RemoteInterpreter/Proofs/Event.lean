import RemoteInterpreter.Proofs.Composition
import RemoteInterpreter.Proofs.Sound

/-!
# Events of a run

What happens at a moment of a run, seen from a party: an action queues a command on its
behalf, or hands it the response that it awaits. Every command is queued by one of a few
kinds of senders, and every errand gets to its stage by one of a few kinds of turns.
-/

namespace RemoteInterpreter.Session

variable {s : Session} {p : Party} {n : Nat} {a : Action}

/-- On whose behalf an action may send: of the handle that it builds, or of the party that has its
step. -/
def sender? (s : Session) (a : Action) : Option Party :=
  if s.built < (s.act a).built then some (.binding s.built)
  else
    match a with
    | .advance p => some p
    | _ => none

/-- The action queues a command on behalf of a party. -/
def Queues (p : Party) (c : Command) (s : Session) (a : Action) : Prop :=
  s.sender? a = some p ∧ (s.act a).channel.outbox.commands = s.channel.outbox.commands ++ [c]

/-- A party that awaits the answer to a command gets a response: it is there when the party asks
for it, or it came while the party was parked. -/
inductive Obtains (p : Party) (id : Nat) (r : Response) (s : Session) : Action → Prop
  | atOnce {e} (errand : s.errand? p = some e) (stage : e.stage = .sent (.ok id))
      (arrived : s.channel.pending.arrived id = some r) :
    Obtains p id r s (.advance p)
  | later {e} (errand : s.errand? p = some e) (stage : e.stage = .parked id)
      (answer : s.channel.pending.place p = .answered (.ok r)) :
    Obtains p id r s (.advance p)

/-! Sending -/

/-- Why a channel refuses a command. -/
def Refuses (c : Channel Party) (e : ChannelError) : Prop :=
  e = .lineBreak ∨ ∃ reason, e = .closed reason ∧ c.pending.closed = some reason

theorem send_cases (kind : Kind) (source : Text) (c : Channel Party) :
    (∃ e, Refuses c e ∧ c.send kind source = (c, .error e)) ∨
      (source.breaksLine = false ∧ c.pending.closed = none ∧
        c.send kind source =
          ({ c with outbox := c.outbox.enqueue kind source }, .ok c.commandsSent)) := by
  cases hb : source.breaksLine with
  | true => exact Or.inl ⟨_, Or.inl rfl, Channel.send_of_breaksLine hb kind c⟩
  | false =>
    cases hc : c.pending.closed with
    | some reason =>
      exact Or.inl ⟨_, Or.inr ⟨reason, rfl, hc⟩, Channel.send_of_closed hb hc kind⟩
    | none => exact Or.inr ⟨rfl, rfl, Channel.send_of_open hb hc kind⟩

/-- A step of an errand leaves the outgoing commands alone, unless it sends. -/
theorem Errand.Moves.outbox {e : Errand} {resolution : Nat → Option (Except Error Text)}
    {c c' : Channel Party} {stage : Stage} (h : Errand.Moves p resolution c e c' stage) :
    c'.outbox = c.outbox ∨ ∃ kind source, e.stage = .held ∧
      Joined.all (e.uses.map resolution) = .ready ∧ e.command = some (kind, source) ∧
      c' = (c.send kind source).1 ∧ stage = .sent (c.send kind source).2 := by
  cases h with
  | sends hs joined command => exact Or.inr ⟨_, _, hs, joined, command, rfl, rfl⟩
  | _ => exact Or.inl rfl

/-- A step of an errand whose result is known has not sent anything. -/
theorem Errand.Moves.outbox_of_result {e : Errand}
    {resolution : Nat → Option (Except Error Text)} {c c' : Channel Party} {stage : Stage}
    {x : Except Error Text} (h : Errand.Moves p resolution c e c' stage)
    (hx : stage.result? = some x) : c'.outbox = c.outbox := by
  rcases h.outbox with h | ⟨kind, source, -, -, -, -, rfl⟩
  · exact h
  · cases hx

/-! Who queues a command -/

theorem queues_advance {c : Command} (built : (s.act (.advance p)).built = s.built)
    (commands : (s.act (.advance p)).channel.outbox.commands =
      s.channel.outbox.commands ++ [c]) : Queues p c s (.advance p) :=
  ⟨by simp [sender?, built], commands⟩

theorem queues_built {c : Command} (built : (s.act a).built = s.built + 1)
    (commands : (s.act a).channel.outbox.commands = s.channel.outbox.commands ++ [c]) :
    Queues (.binding s.built) c s a :=
  ⟨by simp [sender?, built], commands⟩

/-- What an errand has in hand after sending: the id of a command in the name of its party, or the
channel's refusal. -/
structure Ticketed (p : Party) (e : Errand) (s : Session) (a : Action) : Prop where
  accepted : ∀ {id}, e.stage = .sent (.ok id) →
    ∃ c, c.id = id ∧ Queues p c s a ∧ ∀ n, p = .binding n → e.command = some (c.tag, c.text)
  refused : ∀ {err}, e.stage = .sent (.error err) → Refuses s.channel err

/-- How the errand of a party comes to stand as it does after an action. -/
inductive Turns (s : Session) (p : Party) : Action → Errand → Prop
  | keeps {a e} (errand : s.errand? p = some e) : Turns s p a e
  | builds {running d x c b} (party : p = .binding s.built)
      (compose : Expression.compose s.number d = .ok x) (binds : Binds s x running c b)
      (ticketed : Ticketed p b.errand s (.build running d)) :
    Turns s p (.build running d) b.errand
  | imports {n x ticket} (party : p = .binding s.built) (uses : x.uses = [])
      (ticketed : Ticketed p (Binding.errandAt (s.handleAt s.built) x (.sent ticket)) s
        (.advance (.call n))) :
    Turns s p (.advance (.call n)) (Binding.errandAt (s.handleAt s.built) x (.sent ticket))
  | begins {r} (party : p = .call s.begun) :
    Turns s p (.begin r) (Call.ofRequest s.number r).errand
  | moves {e c stage} (errand : s.errand? p = some e)
      (moves : Errand.Moves p s.resolution? s.channel e c stage)
      (ticketed : Ticketed p { e with stage := stage } s (.advance p)) :
    Turns s p (.advance p) { e with stage := stage }
  | rewinds {n e c stage text} (party : p = .call n) (errand : s.errand? p = some e)
      (moves : Errand.Moves p s.resolution? s.channel e c stage)
      (result : stage.result? = some (.ok text)) :
    Turns s p (.advance p) { e with stage := .held }
  | stores {n e ticket} (party : p = .call n) (errand : s.errand? p = some e)
      (stage : e.stage = .held) (ticketed : Ticketed p { e with stage := .sent ticket } s
        (.advance p)) :
    Turns s p (.advance p) { e with stage := .sent ticket }

/-- A command that goes out when a handle is built carries the name of the handle. -/
theorem Binds.ticketed {x : Expression} {running : Bool} {c : Channel Party} {b : Binding}
    {t : Session} (h : Binds t x running c b)
    (outbox : t.channel.outbox = s.channel.outbox)
    (closed : t.channel.pending.closed = s.channel.pending.closed)
    (hbuilt : (s.act a).built = s.built + 1) (houtbox : (s.act a).channel.outbox = c.outbox) :
    Ticketed (.binding s.built) b.errand s a := by
  cases h with
  | outside => exact ⟨nofun, nofun⟩
  | deferred => exact ⟨nofun, nofun⟩
  | atOnce bound =>
    rcases send_cases .exec (Binding.source (t.handleAt t.built) x) t.channel with
      ⟨e, hr, he⟩ | ⟨-, -, hs⟩
    · refine ⟨by simp [Binding.errandAt, he], ?_⟩
      intro err herr
      simp only [Binding.errandAt, he, Stage.sent.injEq, Except.error.injEq] at herr
      rw [Refuses, closed] at hr
      exact herr ▸ hr
    · refine ⟨?_, by simp [Binding.errandAt, hs]⟩
      intro id hid
      simp only [Binding.errandAt, hs, Stage.sent.injEq, Except.ok.injEq] at hid
      rw [hs] at houtbox
      refine ⟨⟨id, .exec, Binding.source (t.handleAt t.built) x⟩, rfl, ?_, fun _ _ => rfl⟩
      refine queues_built hbuilt ?_
      rw [houtbox, ← hid]
      simp [Outbox.enqueue, Channel.commandsSent, outbox]

theorem Errand.Moves.ticketed {e : Errand} {c : Channel Party} {stage : Stage}
    (h : Errand.Moves p s.resolution? s.channel e c stage)
    (built : (s.act (.advance p)).built = s.built)
    (outbox : (s.act (.advance p)).channel.outbox = c.outbox) :
    Ticketed p { e with stage := stage } s (.advance p) := by
  cases h with
  | @sends kind source _ _ command =>
    rcases send_cases kind source s.channel with ⟨err, hr, he⟩ | ⟨-, -, hs⟩
    · refine ⟨by simp [he], ?_⟩
      intro err' herr
      simp only [he, Stage.sent.injEq, Except.error.injEq] at herr
      exact herr ▸ hr
    · refine ⟨?_, by simp [hs]⟩
      intro id hid
      simp only [hs, Stage.sent.injEq, Except.ok.injEq] at hid
      rw [hs] at outbox
      refine ⟨⟨id, kind, source⟩, rfl, queues_advance built ?_, fun _ _ => command⟩
      rw [outbox, ← hid]
      rfl
  | _ => exact ⟨nofun, nofun⟩

theorem ticketed_of_result {e : Errand} {x : Except Error Text}
    (h : e.stage.result? = some x) : Ticketed p e s a := by
  constructor
  · intro id hid
    rw [hid] at h
    cases h
  · intro err herr
    rw [herr] at h
    cases h

/-- Expressions without arguments use no handles. -/
theorem uses_of_compose_nil {number : Nat} {fragments : List Text} {x : Expression}
    (h : Expression.compose number ⟨fragments, []⟩ = .ok x) : x.uses = [] :=
  Expression.uses_of_compose h

/-- A handle without handles to wait for is bound at once. -/
theorem Binds.eq_of_uses_nil {x : Expression} {c : Channel Party} {b : Binding}
    (h : Binds s x true c b) (hx : x.uses = []) :
    c = (s.channel.send .exec (Binding.source (s.handleAt s.built) x)).1 ∧
    b.errand = Binding.errandAt (s.handleAt s.built) x
      (.sent (s.channel.send .exec (Binding.source (s.handleAt s.built) x)).2) := by
  cases h with
  | atOnce => exact ⟨rfl, rfl⟩
  | deferred mem => simp [Binding.uses, hx] at mem

theorem turns_of_stores {k : Call} {e : Entry} {rest : List Entry} {s' : Session} {e' : Errand}
    (call : s.calls n = some k) (stage : k.errand.stage = .held) (hst : Stores s n k e rest s')
    (heq : s.act (.advance (.call n)) = s') (h : s'.errand? p = some e') :
    Turns s p (.advance (.call n)) e' := by
  cases hst with
  | silently =>
    rw [errand?_putCall, errand?_registerLocal] at h
    split at h
    · next hp => cases h; exact .keeps (by simp [hp, call])
    · exact .keeps h
  | @sending encoder =>
    rw [errand?_putCall, errand?_channel, errand?_registerLocal] at h
    split at h
    · next hp =>
      subst hp
      cases h
      refine .stores rfl (by simp [call]) stage ?_
      rcases send_cases .exec (registration e.tag encoder) s.channel with ⟨err, hr, he⟩ | ⟨-, -, hs⟩
      · rw [he]
        refine ⟨nofun, ?_⟩
        rintro err' herr
        cases herr
        exact hr
      · rw [hs] at heq ⊢
        refine ⟨?_, nofun⟩
        rintro id hid
        cases hid
        refine ⟨⟨_, .exec, registration e.tag encoder⟩, rfl, queues_advance ?_ ?_, by simp⟩
        · rw [heq]; rfl
        · rw [heq]; rfl
    · exact .keeps h

theorem turns_of_settles {k : Call} {c : Channel Party} {stage : Stage} {s' : Session}
    {e' : Errand} (call : s.calls n = some k)
    (moves : Errand.Moves (.call n) s.resolution? s.channel k.errand c stage)
    (hs : Settles (s.moved (.call n) c stage) n (k.atStage stage) s')
    (heq : s.act (.advance (.call n)) = s') (h : s'.errand? p = some e') :
    Turns s p (.advance (.call n)) e' := by
  have errand : s.errand? (.call n) = some k.errand := by simp [call]
  have others : p ≠ .call n → (s.moved (.call n) c stage).errand? p = s.errand? p := by
    intro hp
    rw [errand?_moved, if_neg hp]
  have finished : ∀ {x}, stage.result? = some x → p = .call n →
      e' = { k.errand with stage := stage } → Turns s p (.advance (.call n)) e' := by
    rintro x hx rfl rfl
    exact .moves errand moves (ticketed_of_result hx)
  have ends : ∀ {x result}, stage.result? = some x →
      ((s.moved (.call n) c stage).putCall n ((k.atStage stage).finished result)).errand? p =
        some e' → Turns s p (.advance (.call n)) e' := by
    intro x result hx he
    rw [errand?_putCall] at he
    split at he
    · next hp => cases he; exact finished hx hp rfl
    · next hp => exact .keeps (by rw [← others hp]; exact he)
  cases hs with
  | waits =>
    by_cases hp : p = .call n
    · subst hp
      rw [errand?_moved, if_pos rfl, errand] at h
      cases h
      exact .moves errand moves
        (moves.ticketed (by rw [heq, built_moved]) (by rw [heq, channel_moved]))
    · exact .keeps (by rw [← others hp]; exact h)
  | @shows r _ hstage =>
    have hx : stage.result? = some (r.outcome.mapError .channel) := by
      rw [show stage = .answered r from hstage]
      rfl
    exact ends hx h
  | fails _ hx => exact ends hx h
  | concludes _ hx => exact ends hx h
  | misnamed _ hx => exact ends hx h
  | evaluates _ hx =>
    rw [errand?_putCall, errand?_markEvaluated] at h
    split at h
    · next hp => cases h; exact finished hx hp rfl
    · next hp => exact .keeps (by rw [← others hp]; exact h)
  | goesOn _ hx =>
    rw [errand?_putCall] at h
    split at h
    · next hp =>
      subst hp
      have he : { k.errand with stage := .held } = e' := Option.some.inj h
      rw [← he]
      exact .rewinds rfl errand moves hx
    · next hp => exact .keeps (by rw [← others hp]; exact h)
  | @imports text name x _ hx compose =>
    obtain ⟨c', b, hb, hbind⟩ := bind_eq true x (s.moved (.call n) c stage)
    have hu := uses_of_compose_nil compose
    rw [errand?_putCall, hbind, errand?_addBinding, errand?_channel] at h
    split at h
    · next hp => cases h; exact finished hx hp rfl
    · next hp =>
      split at h
      · next hbuilt =>
        cases h
        have houtbox : c.outbox = s.channel.outbox := moves.outbox_of_result hx
        have ticketed : Ticketed (.binding s.built) b.errand s (.advance (.call n)) :=
          hb.ticketed (by simpa using houtbox) (by rw [channel_moved]; exact moves.closed)
            (by rw [heq]; simp)
            (by rw [heq, channel_putCall, hbind]; rfl)
        rw [(hb.eq_of_uses_nil hu).2] at ticketed ⊢
        simp only [handleAt_moved, built_moved, channel_moved] at ticketed hbuilt ⊢
        exact .imports hbuilt hu (hbuilt ▸ ticketed)
      · exact .keeps (by rw [← others hp]; exact h)

theorem turns_of_acts {s' : Session} {e' : Errand} (ha : Acts s a s') (heq : s.act a = s')
    (h : s'.errand? p = some e') : Turns s p a e' := by
  cases ha with
  | idles => exact .keeps h
  | @builds running d x compose =>
    obtain ⟨c, b, hb, hbind⟩ := bind_eq running x s
    rw [hbind, errand?_addBinding, errand?_channel] at h
    split at h
    · next hp =>
      cases h
      subst hp
      refine .builds rfl compose hb (hb.ticketed rfl rfl ?_ ?_)
      · rw [heq, built_bind]
      · rw [heq, hbind]; rfl
    · exact .keeps h
  | begins r =>
    rw [errand?_begin] at h
    split at h
    · next hp => cases h; exact .begins hp
    · exact .keeps h
  | drops n =>
    rw [errand?_drop] at h
    split at h
    · cases h
    · exact .keeps h
  | sends => exact .keeps (by simpa using h)
  | registers => exact .keeps (by simpa using h)
  | drives => exact .keeps (by simpa using h)
  | binds errand moves =>
    rw [errand?_moved] at h
    split at h
    · next hp =>
      subst hp
      rw [errand] at h
      cases h
      exact .moves errand moves
        (moves.ticketed (by rw [heq, built_moved]) (by rw [heq, channel_moved]))
    · exact .keeps h
  | completes call =>
    rw [errand?_putCall] at h
    split at h
    · next hp => cases h; exact .keeps (by simp [hp, call, Call.finished])
    · exact .keeps h
  | stores call _ _ stage => exact turns_of_stores call stage (stores_store _ _ _ _ s) heq h
  | settles call _ moves hs => exact turns_of_settles call moves hs heq h

theorem turns_act {e' : Errand} (h : (s.act a).errand? p = some e') : Turns s p a e' :=
  turns_of_acts (acts_act s a) rfl h

end RemoteInterpreter.Session
