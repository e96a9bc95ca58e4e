import RemoteInterpreter.Proofs.Queue

/-!
# What a run keeps

Handles and calls are never unmade, commands never leave the queue, and an errand keeps
its handles and its command. What became of a binding is settled once.
-/

namespace RemoteInterpreter.Session

variable {s t u : Session} {p : Party} {n : Nat} {a : Action}

/-- The later session has the name of the earlier one, and at least its handles and calls. -/
structure Extends (s t : Session) : Prop where
  number : t.number = s.number
  stem : t.stem = s.stem
  built : s.built ≤ t.built
  begun : s.begun ≤ t.begun

theorem Extends.refl (s : Session) : Extends s s := ⟨rfl, rfl, Nat.le_refl _, Nat.le_refl _⟩

theorem Extends.trans (h : Extends s t) (h' : Extends t u) : Extends s u :=
  ⟨h'.number.trans h.number, h'.stem.trans h.stem, Nat.le_trans h.built h'.built,
    Nat.le_trans h.begun h'.begun⟩

theorem Extends.handleAt (h : Extends s t) : t.handleAt = s.handleAt := by
  funext n
  simp [Session.handleAt, h.number, h.stem]

theorem extends_putCall (n : Nat) (k : Call) (s : Session) : Extends s (s.putCall n k) :=
  ⟨rfl, rfl, Nat.le_refl _, Nat.le_refl _⟩

theorem extends_bind (running : Bool) (x : Expression) (s : Session) :
    Extends s (s.bind running x) := by
  obtain ⟨c, b, -, heq⟩ := bind_eq running x s
  rw [heq]
  exact ⟨rfl, rfl, Nat.le_succ _, Nat.le_refl _⟩

theorem extends_markEvaluated (n : Nat) (s : Session) : Extends s (s.markEvaluated n) := by
  unfold markEvaluated
  split
  · exact ⟨rfl, rfl, Nat.le_refl _, Nat.le_refl _⟩
  · exact .refl s

theorem extends_moved (p : Party) (c : Channel Party) (stage : Stage) (s : Session) :
    Extends s (s.moved p c stage) := by
  cases p <;> exact ⟨rfl, rfl, Nat.le_refl _, Nat.le_refl _⟩

theorem Settles.extends {k : Call} (h : Settles s n k t) : Extends s t := by
  cases h with
  | waits => exact .refl s
  | evaluates => exact (extends_markEvaluated _ s).trans (extends_putCall _ _ _)
  | imports => exact (extends_bind _ _ s).trans (extends_putCall _ _ _)
  | _ => exact extends_putCall _ _ s

theorem extends_act (s : Session) (a : Action) : Extends s (s.act a) := by
  have ha := acts_act s a
  generalize s.act a = t at ha
  cases ha with
  | idles => exact .refl s
  | builds => exact extends_bind _ _ s
  | begins => exact ⟨rfl, rfl, Nat.le_refl _, Nat.le_succ _⟩
  | binds => exact extends_moved _ _ _ s
  | @stores n k e rest =>
    have hst := stores_store n k e rest s
    generalize s.store n k e rest = t at hst
    cases hst <;> exact ⟨rfl, rfl, Nat.le_refl _, Nat.le_refl _⟩
  | settles _ _ _ hs => exact (extends_moved _ _ _ s).trans hs.extends
  | _ => exact ⟨rfl, rfl, Nat.le_refl _, Nat.le_refl _⟩

theorem extends_run (s : Session) (as : List Action) : Extends s (s.run as) := by
  induction as generalizing s with
  | nil => exact .refl s
  | cons a as ih => exact (extends_act s a).trans (ih (s.act a))

/-! The queue -/

theorem prefix_commands_act (s : Session) (a : Action) :
    s.channel.outbox.commands <+: (s.act a).channel.outbox.commands := by
  rcases enqueues_act s a with h | ⟨uses, c, h⟩
  · exact ⟨[], by rw [h, List.append_nil]⟩
  · exact ⟨[c], h.commands.symm⟩

theorem prefix_commands_run (s : Session) (as : List Action) :
    s.channel.outbox.commands <+: (s.run as).channel.outbox.commands := by
  induction as generalizing s with
  | nil => exact List.prefix_refl _
  | cons a as ih => exact (prefix_commands_act s a).trans (ih (s.act a))

/-- Commands are numbered in their order, and none of them breaks its line. -/
structure Numbered (s : Session) : Prop where
  ids : ∀ {i} {c : Command}, s.channel.outbox.commands[i]? = some c → c.id = i
  oneLine : ∀ c ∈ s.channel.outbox.commands, c.text.breaksLine = false

theorem Numbered.act (h : s.Numbered) (a : Action) : (s.act a).Numbered := by
  rcases enqueues_act s a with heq | ⟨uses, c, hc⟩
  · exact ⟨by rw [heq]; exact h.ids, by rw [heq]; exact h.oneLine⟩
  · constructor
    · intro i d hd
      rw [hc.commands] at hd
      rw [List.getElem?_append] at hd
      split at hd
      · exact h.ids hd
      · next hi =>
        obtain ⟨hlt, rfl⟩ := List.getElem?_eq_some_iff.1 hd
        have hlast : i = s.channel.outbox.commands.length := by
          simp only [List.length_singleton] at hlt
          omega
        simpa [hlast, Channel.commandsSent] using hc.id
    · intro d hd
      rw [hc.commands] at hd
      rcases List.mem_append.1 hd with hd | hd
      · exact h.oneLine d hd
      · cases List.mem_singleton.1 hd
        exact hc.oneLine

theorem Numbered.run (h : s.Numbered) (as : List Action) : (s.run as).Numbered :=
  run_preserves (fun _ a ht => ht.act a) h as

theorem Numbered.getElem? (h : s.Numbered) {c : Command} (hc : c ∈ s.channel.outbox.commands) :
    s.channel.outbox.commands[c.id]? = some c := by
  obtain ⟨i, hi⟩ := List.getElem?_of_mem hc
  rwa [h.ids hi]

theorem Numbered.lt (h : s.Numbered) {c : Command} (hc : c ∈ s.channel.outbox.commands) :
    c.id < s.channel.commandsSent :=
  (List.getElem?_eq_some_iff.1 (h.getElem? hc)).1

/-- A command is known by its id. -/
theorem Numbered.eq_of_id (h : s.Numbered) {c d : Command} (hc : c ∈ s.channel.outbox.commands)
    (hd : d ∈ s.channel.outbox.commands) (hid : c.id = d.id) : c = d := by
  have hcd := h.getElem? hc
  rw [hid, h.getElem? hd] at hcd
  exact (Option.some.inj hcd).symm

/-- The action puts this command at the end of the queue. -/
def Appends (c : Command) (s : Session) (a : Action) : Prop :=
  (s.act a).channel.outbox.commands = s.channel.outbox.commands ++ [c]

/-- What was queued at some moment stays in the queue. -/
theorem mem_of_appends {c : Command} {as : List Action} (h : Happens (Appends c) s as) :
    c ∈ (s.run as).channel.outbox.commands := by
  obtain ⟨before, a, after, rfl, hq⟩ := h
  have hpre := prefix_commands_run ((s.run before).act a) after
  rw [run_append, run_cons]
  exact hpre.subset (by rw [hq]; simp)

theorem mem_of_queues {c : Command} {as : List Action} (h : Happens (Queues p c) s as) :
    c ∈ (s.run as).channel.outbox.commands :=
  mem_of_appends (h.imp fun _ _ hq => hq.2)

/-! The table -/

/-- What an action makes of the table of responses. -/
inductive Tables (s : Session) : Action → Pending Party → Prop
  | keeps {a : Action} : Tables s a s.channel.pending
  | delivers {octets i r} (read : s.channel.inbox.read = .piece octets i)
      (piece : Response.ofPiece? octets = some r) : Tables s .read (s.channel.pending.insert r)
  | closes {a : Action} (reason : CloseReason) : Tables s a (s.channel.pending.close reason)
  | leaves (m : Nat) : Tables s (.drop m) (s.channel.pending.leave (.call m))
  | moves {p : Party} {e c stage} (errand : s.errand? p = some e)
      (moves : Errand.Moves p s.resolution? s.channel e c stage) :
    Tables s (.advance p) c.pending

theorem pending_bind (running : Bool) (x : Expression) (s : Session) :
    (s.bind running x).channel.pending = s.channel.pending := by
  obtain ⟨c, b, hb, heq⟩ := bind_eq running x s
  rw [heq]
  exact hb.pending

theorem Settles.pending {k : Call} (h : Settles s n k t) :
    t.channel.pending = s.channel.pending := by
  cases h with
  | waits => rfl
  | evaluates => rw [channel_putCall, channel_markEvaluated]
  | imports => exact pending_bind _ _ _
  | _ => rfl

theorem Drives.tables {c : Channel Party} (h : Drives s.channel a c) : Tables s a c.pending := by
  cases h with
  | kills => exact .closes _
  | heeds => exact .closes _
  | resumes => exact .closes _
  | breaks => exact .closes _
  | ends => exact .closes _
  | delivers read piece => exact .delivers read piece
  | _ => exact .keeps

theorem tables_act (s : Session) (a : Action) : Tables s a (s.act a).channel.pending := by
  have ha := acts_act s a
  generalize s.act a = t at ha
  cases ha with
  | builds => rw [pending_bind]; exact .keeps
  | drops n => exact .leaves n
  | sends => rw [pending_send]; exact .keeps
  | drives hd => exact hd.tables
  | binds errand moves => rw [channel_moved]; exact .moves errand moves
  | @stores n k e rest =>
    have hst := stores_store n k e rest s
    generalize s.store n k e rest = t at hst
    cases hst with
    | silently => exact .keeps
    | sending => rw [channel_putCall, pending_send]; exact .keeps
  | settles call _ moves hs =>
    rw [hs.pending, channel_moved]
    exact .moves (by simp [call]) moves
  | _ => exact .keeps

/-- A closed table stays closed for the same reason. -/
theorem closed_act {reason : CloseReason} (h : s.channel.pending.closed = some reason)
    (a : Action) : (s.act a).channel.pending.closed = some reason := by
  have ht := tables_act s a
  generalize (s.act a).channel.pending = t at ht
  cases ht with
  | keeps => exact h
  | delivers => rw [Pending.closed_insert, h]
  | closes => rw [Pending.closed_close, h]; rfl
  | leaves => exact h
  | moves _ moves => rw [moves.closed, h]

/-- A closed table keeps its reason. -/
theorem closed_run {reason : CloseReason} (h : s.channel.pending.closed = some reason)
    (as : List Action) : (s.run as).channel.pending.closed = some reason :=
  run_preserves (I := fun t => t.channel.pending.closed = some reason)
    (fun _ a ht => closed_act ht a) h as

theorem isClosed_act (h : s.channel.isClosed = true) (a : Action) :
    (s.act a).channel.isClosed = true := by
  obtain ⟨reason, hreason⟩ := Option.isSome_iff_exists.1 h
  exact Option.isSome_iff_exists.2 ⟨reason, closed_act hreason a⟩

/-- Nothing is queued for a closed channel. -/
theorem commands_act_of_isClosed (h : s.channel.isClosed = true) (a : Action) :
    (s.act a).channel.outbox.commands = s.channel.outbox.commands := by
  rcases enqueues_act s a with heq | ⟨uses, c, hc⟩
  · exact heq
  · simp [Channel.isClosed, Pending.isClosed, hc.isOpen] at h

/-- A closed channel stays closed. -/
theorem isClosed_run (h : s.channel.isClosed = true) (as : List Action) :
    (s.run as).channel.isClosed = true :=
  run_preserves (I := fun t => t.channel.isClosed = true) (fun _ a ht => isClosed_act ht a) h as

/-! Errands -/

/-- Only an errand whose result is not known yet has a step. -/
theorem Errand.Moves.result?_eq_none {e : Errand} {resolution : Nat → Option (Except Error Text)}
    {c c' : Channel Party} {stage : Stage} (h : Errand.Moves p resolution c e c' stage) :
    e.stage.result? = none := by
  cases h with
  | starts hs => rw [hs]; rfl
  | inherits hs => rw [hs]; rfl
  | clears hs => rw [hs]; rfl
  | sends hs => rw [hs]; rfl
  | refused hs => rw [hs]; rfl
  | takes hs => rw [hs]; rfl
  | turnedAway hs => rw [hs]; rfl
  | parks hs => rw [hs]; rfl
  | collects hs => rw [hs]; rfl
  | letDown hs => rw [hs]; rfl

theorem Sound.binding_of_lt (h : s.Sound) (hn : n < s.built) : ∃ b, s.bindings n = some b := by
  cases hb : s.bindings n with
  | none => exact absurd ((h.bindings n).1 hb) (Nat.not_le.2 hn)
  | some b => exact ⟨b, rfl⟩

theorem Sound.lt_built (h : s.Sound) {b : Binding} (hb : s.bindings n = some b) : n < s.built := by
  rcases Nat.lt_or_ge n s.built with hn | hn
  · exact hn
  · rw [(h.bindings n).2 hn] at hb
    cases hb

theorem Sound.no_errand_built (h : s.Sound) : s.errand? (.binding s.built) = none := by
  simp [(h.bindings s.built).2 (Nat.le_refl _)]

theorem Sound.no_errand_begun (h : s.Sound) : s.errand? (.call s.begun) = none := by
  simp [h.calls s.begun (Nat.le_refl _)]

/-- An errand that was there before an action keeps its handles and its command. -/
theorem Turns.kept (h : s.Sound) {e e' : Errand} (he : s.errand? p = some e)
    (ht : Turns s p a e') : e'.uses = e.uses ∧ e'.command = e.command := by
  cases ht with
  | keeps errand => cases he.symm.trans errand; exact ⟨rfl, rfl⟩
  | builds party => rw [party, h.no_errand_built] at he; cases he
  | imports party => rw [party, h.no_errand_built] at he; cases he
  | begins party => rw [party, h.no_errand_begun] at he; cases he
  | moves errand => cases he.symm.trans errand; exact ⟨rfl, rfl⟩
  | rewinds _ errand => cases he.symm.trans errand; exact ⟨rfl, rfl⟩
  | stores _ errand => cases he.symm.trans errand; exact ⟨rfl, rfl⟩

/-- Handles keep their bindings. -/
theorem Sound.binding_act (h : s.Sound) {b : Binding} (hb : s.bindings n = some b) (a : Action) :
    ∃ b', (s.act a).bindings n = some b' :=
  (h.act a).binding_of_lt (Nat.lt_of_lt_of_le (h.lt_built hb) (extends_act s a).built)

theorem resolution?_eq_some_iff {x : Except Error Text} :
    s.resolution? n = some x ↔
      ∃ e, s.errand? (.binding n) = some e ∧ e.stage.result? = some x := by
  cases hb : s.bindings n <;> simp [resolution?, hb, Binding.resolution?]

/-- What became of a binding does not change any more. -/
theorem Sound.resolution?_act (h : s.Sound) {x : Except Error Text}
    (hx : s.resolution? n = some x) (a : Action) : (s.act a).resolution? n = some x := by
  obtain ⟨e, he, hr⟩ := resolution?_eq_some_iff.1 hx
  obtain ⟨b, hb, rfl⟩ := Option.map_eq_some_iff.1 he
  obtain ⟨b', hb'⟩ := h.binding_act hb a
  refine resolution?_eq_some_iff.2 ⟨b'.errand, by simp [hb'], ?_⟩
  have ht : Turns s (.binding n) a b'.errand := turns_act (by simp [hb'])
  generalize b'.errand = e' at ht
  cases ht with
  | keeps errand => cases he.symm.trans errand; exact hr
  | builds party => rw [party, h.no_errand_built] at he; cases he
  | imports party => rw [party, h.no_errand_built] at he; cases he
  | begins party => cases party
  | moves errand moves =>
    cases he.symm.trans errand
    rw [moves.result?_eq_none] at hr
    cases hr
  | rewinds party => cases party
  | stores party => cases party

theorem Sound.resolution?_run (h : s.Sound) {x : Except Error Text}
    (hx : s.resolution? n = some x) (as : List Action) : (s.run as).resolution? n = some x := by
  induction as generalizing s with
  | nil => exact hx
  | cons a as ih => exact ih (h.act a) (h.resolution?_act hx a)

/-- A handle counts as bound when its binding went well. -/
theorem Sound.isBound_iff (h : s.Sound) :
    s.isBound n = true ↔ ∃ text, s.resolution? n = some (.ok text) := by
  cases hb : s.bindings n with
  | none => simp [isBound, resolution?, hb]
  | some b => simpa [isBound, resolution?, hb] using (h.recorded hb).bound

/-- A command is queued only when the handles of its errand count as bound. -/
theorem Enqueues.isBound (hs : s.Sound) {uses : List Nat} {c : Command}
    (h : Enqueues s a uses c) : ∀ m ∈ uses, s.isBound m = true := by
  have hsend := h.sending
  generalize c.tag = kind, c.text = source, s.sender? a = q at hsend
  cases hsend with
  | builds _ bound => exact bound
  | imports => simp
  | goes _ _ joined =>
    intro m hm
    exact hs.isBound_iff.2 (Joined.ok_of_all_ready joined _ (List.mem_map_of_mem hm))
  | stores => simp
  | directly => simp

/-- The errand of a handle keeps its handles while a run goes on. -/
theorem Sound.uses_run (h : s.Sound) {b : Binding} (hb : s.bindings n = some b)
    (as : List Action) :
    ∃ b', (s.run as).bindings n = some b' ∧ b'.errand.uses = b.errand.uses := by
  induction as generalizing s b with
  | nil => exact ⟨b, hb, rfl⟩
  | cons a as ih =>
    obtain ⟨b', hb'⟩ := h.binding_act hb a
    have ht : Turns s (.binding n) a b'.errand := turns_act (by simp [hb'])
    obtain ⟨b'', hb'', huses⟩ := ih (h.act a) hb'
    exact ⟨b'', hb'', huses.trans (ht.kept h (by simp [hb])).1⟩

end RemoteInterpreter.Session
