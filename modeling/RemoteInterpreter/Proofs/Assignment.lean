import RemoteInterpreter.Proofs.Framing
import RemoteInterpreter.Proofs.Progress
import RemoteInterpreter.Proofs.Record

/-!
# One assignment for each handle

A handle is sent at once when it is built, if all handles that it uses are bound already, and
otherwise by its binding as soon as they are. It is never sent twice, and at rest it has
been sent exactly if these handles are bound.
-/

namespace RemoteInterpreter

/-! Assignments keep to their line -/

theorem Identifier.breaksLine_of_isIdentifier {t : Text} (h : isIdentifier t = true) :
    t.breaksLine = false := by
  have not_mem : ∀ {c : Char}, isPart c = false → c ∉ t := by
    intro c hc hmem
    rw [isPart_of_mem h hmem] at hc
    cases hc
  exact Text.breaksLine_eq_false_iff.2 ⟨not_mem (by decide), not_mem (by decide)⟩

theorem Handle.breaksLine_name {h : Handle} (hstem : Identifier.isIdentifier h.stem = true) :
    h.name.breaksLine = false := by
  have hnumber : (Numeral.write h.number).breaksLine = false :=
    Text.breaksLine_eq_false_iff.2
      ⟨Message.not_mem_write (by decide), Message.not_mem_write (by decide)⟩
  rw [name, Text.breaksLine_append, Identifier.breaksLine_of_isIdentifier hstem, hnumber]
  rfl

namespace Session

theorem Binding.breaksLine_source {h : Handle} {x : Expression}
    (hstem : Identifier.isIdentifier h.stem = true) (hx : x.source.breaksLine = false) :
    (source h x).breaksLine = false := by
  have hcons : ∀ t : Text, Text.breaksLine (' ' :: '=' :: ' ' :: t) = t.breaksLine := fun _ => rfl
  rw [source, Text.breaksLine_append, Handle.breaksLine_name hstem, hcons, hx]
  rfl

variable {s : Session} {p : Party} {n m : Nat} {a a' : Action} {as : List Action}
variable {b : Binding} {c : Command} {number : Nat} {stem : Text} {debug : Bool}

/-- A source that keeps to its line is refused only because the channel is closed. -/
theorem ticket_ne_invalidCommand {source : Text} (h : source.breaksLine = false) (kind : Kind)
    (c : Channel Party) (fault : Text) :
    (c.send kind source).2 ≠ .error (.invalidCommand fault) := by
  cases hc : c.pending.closed with
  | some reason =>
    rw [Channel.send_of_closed h hc]
    exact nofun
  | none =>
    rw [Channel.send_of_open h hc]
    exact nofun

/-- The expression of a binding keeps to its line, and its assignment was not refused for a line
break. -/
structure Binding.OneLine (b : Binding) : Prop where
  source : b.expression.source.breaksLine = false
  ticket : b.errand.stage ≠ .sent (.error .lineBreak)

theorem Binds.oneLine {t : Session} {x : Expression} {running : Bool} {c : Channel Party}
    (hstem : Identifier.isIdentifier t.stem = true) (hx : x.source.breaksLine = false)
    (h : Binds t x running c b) : b.OneLine := by
  cases h with
  | outside => exact ⟨hx, nofun⟩
  | deferred => exact ⟨hx, nofun⟩
  | atOnce =>
    refine ⟨hx, fun hstage => ?_⟩
    have hline := Binding.breaksLine_source (h := t.handleAt t.built) hstem hx
    exact ticket_ne_invalidCommand hline .exec t.channel _ (Stage.sent.inj hstage)

theorem Binding.OneLine.moves {c : Channel Party} {stage : Stage} (h : b.OneLine)
    (hstem : Identifier.isIdentifier s.stem = true) (hrec : b.Recorded (s.handleAt n))
    (moves : Errand.Moves p s.resolution? s.channel b.errand c stage) :
    (b.atStage stage).OneLine := by
  refine ⟨h.source, ?_⟩
  show stage ≠ .sent (.error .lineBreak)
  cases moves with
  | sends _ _ command =>
    rw [hrec.command] at command
    cases command
    intro hstage
    have hline := Binding.breaksLine_source (h := s.handleAt n) hstem h.source
    exact ticket_ne_invalidCommand hline .exec s.channel _ (Stage.sent.inj hstage)
  | _ => exact nofun

theorem Records.oneLine (hs : s.Sound) (hstem : Identifier.isIdentifier s.stem = true)
    (hl : ∀ {b}, s.bindings n = some b → b.OneLine) (h : Records s n a b) : b.OneLine := by
  cases h with
  | keeps binding => exact hl binding
  | @builds _ t _ _ _ _ _ _ handles compose binds =>
    have hstem' : t.stem = s.stem := congrArg Handle.stem (congrFun handles 0)
    exact binds.oneLine (hstem' ▸ hstem) (Expression.breaksLine_of_compose compose)
  | moves binding moves => exact (hl binding).moves hstem (hs.recorded binding) moves
  | evaluates binding => exact ⟨(hl binding).source, (hl binding).ticket⟩

theorem isIdentifier_opened (hopen : opened number stem debug = .ok s) :
    Identifier.isIdentifier s.stem = true := by
  unfold opened at hopen
  split at hopen
  · next h => cases hopen; exact h
  · cases hopen

theorem oneLine_run (hopen : opened number stem debug = .ok s) (as : List Action)
    (hb : (s.run as).bindings n = some b) : b.OneLine := by
  induction as using List.reverseRecOn generalizing b with
  | nil =>
    rw [run_nil, bindings_opened hopen] at hb
    cases hb
  | append_singleton as a ih =>
    have hstem : Identifier.isIdentifier (s.run as).stem = true := by
      rw [(extends_run s as).stem]
      exact isIdentifier_opened hopen
    rw [run_concat] at hb
    exact (records_act hb).oneLine ((sound_opened hopen).run as) hstem ih

/-! At most once -/

/-- Of two moments of a run one is the other, or lies before it. -/
theorem moment_cases {before after before' after' : List Action}
    (h : before ++ a :: after = before' ++ a' :: after') :
    before = before' ∨ before ++ [a] <+: before' ∨ before' ++ [a'] <+: before := by
  rcases List.append_eq_append_iff.1 h with ⟨mid, rfl, hmid⟩ | ⟨mid, rfl, hmid⟩
  · cases mid with
    | nil => exact Or.inl (List.append_nil _).symm
    | cons a₁ mid =>
      cases hmid
      exact Or.inr (Or.inl ⟨mid, by simp⟩)
  · cases mid with
    | nil => exact Or.inl (List.append_nil _)
    | cons a₁ mid =>
      cases hmid
      exact Or.inr (Or.inr ⟨mid, by simp⟩)

/-- The action after these queues the assignment of the handle. -/
def AssignedAfter (n : Nat) (s : Session) (as before : List Action) : Prop :=
  ∃ a after c, as = before ++ a :: after ∧ Queues (.binding n) c (s.run before) a

theorem exists_assignedAfter_iff :
    (∃ before, AssignedAfter n s as before) ↔ ∃ c, Happens (Queues (.binding n) c) s as := by
  constructor
  · rintro ⟨before, a, after, c, h, hq⟩
    exact ⟨c, before, a, after, h, hq⟩
  · rintro ⟨c, before, a, after, h, hq⟩
    exact ⟨before, a, after, c, h, hq⟩

/-- What was queued before a moment is not queued again at that moment. -/
theorem not_queues_later (hs : s.Sound) {before before' : List Action}
    (hq : Queues (.binding n) c (s.run before) a) (hpre : before ++ [a] <+: before')
    (d : Command) : ¬ Queues (.binding n) d (s.run before') a' := by
  obtain ⟨mid, rfl⟩ := hpre
  have happened : Happens (Queues (.binding n) c) s (before ++ [a] ++ mid) :=
    (Happens.last hq).append mid
  exact (dispatched_of_queues hs happened).not_queues (hs.run _) d

/-- The assignment of a handle is queued at one moment. -/
theorem assignedAfter_unique (hs : s.Sound) {before before' : List Action}
    (h : AssignedAfter n s as before) (h' : AssignedAfter n s as before') : before' = before := by
  obtain ⟨a, after, c, rfl, hq⟩ := h
  obtain ⟨a', after', c', heq, hq'⟩ := h'
  rcases moment_cases heq with rfl | hpre | hpre
  · rfl
  · exact absurd hq' (not_queues_later hs hq hpre c')
  · exact absurd hq (not_queues_later hs hq' hpre c)

/-! What is assigned -/

/-- A handle keeps its expression while a run goes on. -/
theorem Sound.expression_run (h : s.Sound) (hb : s.bindings n = some b) (as : List Action) :
    ∃ b', (s.run as).bindings n = some b' ∧ b'.expression = b.expression := by
  induction as generalizing s b with
  | nil => exact ⟨b, hb, rfl⟩
  | cons a as ih =>
    obtain ⟨b', hb'⟩ := h.binding_act hb a
    have hkept : b'.expression = b.expression := by
      cases records_act hb' with
      | keeps binding => cases hb.symm.trans binding; rfl
      | builds number =>
        rw [number, (h.bindings _).2 (Nat.le_refl _)] at hb
        cases hb
      | moves binding => cases hb.symm.trans binding; rfl
      | evaluates binding => cases hb.symm.trans binding; rfl
    obtain ⟨b'', hb'', hexpression⟩ := ih (h.act a) hb'
    exact ⟨b'', hb'', hexpression.trans hkept⟩

/-- What is queued in the name of a handle is its assignment. -/
theorem assignment_of_queues (hopen : opened number stem debug = .ok s)
    (h : Happens (Queues (.binding n) c) s as) :
    ∃ b, (s.run as).bindings n = some b ∧ c.tag = .exec ∧
      c.text = Binding.source (s.handleAt n) b.expression := by
  have hs := sound_opened hopen
  obtain ⟨before, a, after, rfl, hq⟩ := h
  obtain ⟨uses, hc⟩ := hq.enqueues
  obtain ⟨e, he, hstage, -⟩ := hc.awaited _ hq.1
  rw [← run_concat] at he
  -- right after it was queued the binding waits for the answer to it
  have hpast : Past (.binding n) e s (before ++ [a]) := past_run hopen (before ++ [a]) he
  obtain ⟨b, hb, rfl⟩ := Option.map_eq_some_iff.1 he
  obtain ⟨sent, -, hsent, htag, htext⟩ :=
    sent_of_given (hs.run (before ++ [a])) hb (hpast.waiting (Or.inl hstage))
  obtain rfl : c = sent := eq_of_queues hs (.last hq) hsent
  obtain ⟨b', hb', hexpression⟩ := (hs.run (before ++ [a])).expression_run hb after
  rw [← run_append, List.append_assoc, List.singleton_append] at hb'
  exact ⟨b', hb', htag, hexpression ▸ htext⟩

/-! Built where something can run -/

/-- The action builds this handle, and not where nothing can run in the background. -/
def BuildsInside (n : Nat) (s : Session) (a : Action) : Prop :=
  s.built = n ∧ (s.act a).built = n + 1 ∧ ∀ d, a ≠ .build false d

/-- A handle is built once. -/
theorem built_once {before after before' after' : List Action}
    (h : before ++ a :: after = before' ++ a' :: after') (hb : (s.run before).built = n)
    (hact : ((s.run before).act a).built = n + 1) (hb' : (s.run before').built = n)
    (hact' : ((s.run before').act a').built = n + 1) : a' = a := by
  have grows : ∀ {b₁ b₂ : List Action} {a₁ : Action}, b₁ ++ [a₁] <+: b₂ →
      ((s.run b₁).act a₁).built = n + 1 → (s.run b₂).built ≠ n := by
    rintro b₁ b₂ a₁ ⟨mid, rfl⟩ hlast hn
    rw [run_append, run_concat] at hn
    have hle := (extends_run ((s.run b₁).act a₁) mid).built
    omega
  rcases moment_cases h with rfl | hpre | hpre
  · exact ((List.cons_eq_cons.1 (List.append_cancel_left h)).1).symm
  · exact absurd hb' (grows hpre hact)
  · exact absurd hb (grows hpre hact')

/-- The ticket of a new assignment is the id of its command, if the channel is open. -/
theorem queues_of_ticketed (hopen : opened number stem debug = .ok s) {e : Errand}
    {ticket : Except ChannelError Nat} (isOpen : (s.run as).channel.isClosed = false)
    (he : (s.run (as ++ [a])).errand? (.binding n) = some e) (hstage : e.stage = .sent ticket)
    (ticketed : Ticketed (.binding n) e (s.run as) a) :
    ∃ c, Queues (.binding n) c (s.run as) a := by
  obtain ⟨b, hb, rfl⟩ := Option.map_eq_some_iff.1 he
  cases ticket with
  | ok id =>
    obtain ⟨c, -, hq, -⟩ := ticketed.accepted hstage
    exact ⟨c, hq⟩
  | error err =>
    rcases ticketed.refused hstage with rfl | ⟨reason, rfl, hclosed⟩
    · exact absurd hstage (oneLine_run hopen _ hb).ticket
    · simp [Channel.isClosed, Pending.isClosed, hclosed] at isOpen

/-- A handle that is built where all handles that it uses are bound is sent at once. -/
theorem queues_of_buildsInside (hopen : opened number stem debug = .ok s)
    (hbuilds : BuildsInside n (s.run as) a) (isOpen : (s.run as).channel.isClosed = false)
    (hb : (s.run (as ++ [a])).bindings n = some b)
    (bound : ∀ m ∈ Binding.uses b.expression, (s.run as).isBound m = true) :
    ∃ c, Queues (.binding n) c (s.run as) a := by
  have hs := (sound_opened hopen).run as
  obtain ⟨hn, -, inside⟩ := hbuilds
  have he : (s.run (as ++ [a])).errand? (.binding n) = some b.errand := by
    rw [errand?_binding, hb]
    rfl
  have hrec := ((sound_opened hopen).run (as ++ [a])).recorded hb
  have ht : Turns (s.run as) (.binding n) a b.errand := turns_act (by rw [← run_concat]; exact he)
  have hnew : (s.run as).errand? (.binding n) = none := hn ▸ hs.no_errand_built
  generalize hbe : b.errand = e at he ht
  cases ht with
  | keeps errand =>
    rw [hnew] at errand
    cases errand
  | @builds running d x c b' _ compose binds ticketed =>
    cases binds with
    | outside => exact absurd rfl (inside d)
    | atOnce => exact queues_of_ticketed hopen isOpen he rfl ticketed
    | @deferred m mem unbound =>
      have hm : m ∈ Binding.uses b.expression := by
        rw [← hrec.uses, hbe]
        exact mem
      rw [bound m hm] at unbound
      cases unbound
  | imports _ _ ticketed => exact queues_of_ticketed hopen isOpen he rfl ticketed
  | begins party => cases party
  | moves errand =>
    rw [hnew] at errand
    cases errand
  | rewinds party => cases party
  | stores party => cases party

/-! At rest -/

/-- A handle that waits for an answer, or has one, was sent. -/
theorem queued_of_past {e : Errand} (h : Past (.binding n) e s as)
    (hstage : (∃ id, e.stage = .sent (.ok id) ∨ e.stage = .parked id) ∨
      ∃ r, e.stage = .answered r) :
    ∃ c, Happens (Queues (.binding n) c) s as := by
  have given : ∀ {id}, Given (.binding n) id e.command s as →
      ∃ c, Happens (Queues (.binding n) c) s as := by
    intro id hg
    cases hg with
    | queued _ queues => exact ⟨_, queues⟩
    | asked party => cases party
  rcases hstage with ⟨id, hid⟩ | ⟨r, hr⟩
  · exact given (h.waiting hid)
  · exact given (h.answered hr).1

/-- On an open channel a handle that failed by itself was sent, if something could run when it was
built. -/
theorem queued_of_failsAlone (hopen : opened number stem debug = .ok s) {e : Error}
    (isOpen : (s.run as).channel.isClosed = false) (inside : Happens (BuildsInside n) s as)
    (h : Happens (FailsAlone n e) s as) : ∃ c, Happens (Queues (.binding n) c) s as := by
  have hs := sound_opened hopen
  obtain ⟨before, a, after, rfl, hf⟩ := h
  have stillOpen : ∀ reason, (s.run before).channel.pending.closed ≠ some reason := by
    intro reason hreason
    have hclosed := isClosed_run (s := s.run before)
      (by simp [Channel.isClosed, Pending.isClosed, hreason]) (a :: after)
    rw [← run_append, isOpen] at hclosed
    cases hclosed
  have sent : ∀ {e : Errand}, (s.run before).errand? (.binding n) = some e →
      ((∃ id, e.stage = .sent (.ok id) ∨ e.stage = .parked id) ∨ ∃ r, e.stage = .answered r) →
      ∃ c, Happens (Queues (.binding n) c) s (before ++ a :: after) := by
    intro e he hstage
    obtain ⟨c, hc⟩ := queued_of_past (past_run hopen before he) hstage
    exact ⟨c, hc.append _⟩
  cases hf with
  | @outside _ d x compose hn =>
    obtain ⟨before', a', after', heq, hb', hact', hinside⟩ := inside
    have hact : ((s.run before).act (.build false d)).built = n + 1 := by
      simp [act, build, compose, hn]
    exact absurd (built_once heq hn.symm hact hb' hact') (hinside d)
  | refused errand stage refuses =>
    obtain ⟨b, hb, rfl⟩ := Option.map_eq_some_iff.1 errand
    rcases refuses with rfl | ⟨reason, rfl, hclosed⟩
    · exact absurd stage (oneLine_run hopen before hb).ticket
    · exact absurd hclosed (stillOpen reason)
  | raised obtains =>
    cases obtains with
    | atOnce errand stage => exact sent errand (Or.inl ⟨_, Or.inl stage⟩)
    | later errand stage => exact sent errand (Or.inl ⟨_, Or.inr stage⟩)
  | turnedAway errand stage => exact sent errand (Or.inl ⟨_, Or.inl stage⟩)
  | letDown _ _ hclosed => exact absurd hclosed (stillOpen _)

theorem uses_bound_of_queues (hopen : opened number stem debug = .ok s)
    (h : Happens (Queues (.binding n) c) s as) (hm : Uses (s.run as) n m) :
    (s.run as).isBound m = true :=
  ((sound_opened hopen).run as).isBound_iff.2 (bound_of_queues (sound_opened hopen) h hm)

/-- At rest on an open channel a handle has been sent once the handles that it uses are bound. -/
theorem queued_of_atRest (hopen : opened number stem debug = .ok s) (hrest : (s.run as).AtRest)
    (isOpen : (s.run as).channel.isClosed = false) (inside : Happens (BuildsInside n) s as)
    (bound : ∀ m, Uses (s.run as) n m → (s.run as).isBound m = true) :
    ∃ c, Happens (Queues (.binding n) c) s as := by
  have hs := (sound_opened hopen).run as
  have hn : n < (s.run as).built := by
    obtain ⟨before, a, after, rfl, -, hbuilt, -⟩ := inside
    rw [run_append, run_cons]
    have hle := (extends_run ((s.run before).act a) after).built
    omega
  obtain ⟨b, hb⟩ := hs.binding_of_lt hn
  have hrec := hs.recorded hb
  have hpast : Past (.binding n) b.errand s as := past_run hopen as (by simp [hb])
  have resolved : ∀ m, Uses (s.run as) n m → ∃ text, (s.run as).resolution? m = some (.ok text) :=
    fun m hm => hs.isBound_iff.1 (bound m hm)
  rcases waits_of_advanceBinding? hb (hrest.bindings n) with ⟨x, hx⟩ | ⟨m, hm, hnone⟩ | ⟨id, hid, -⟩
  · cases x with
    | ok text =>
      obtain ⟨r, hstage, -⟩ :=
        hrec.passed (hrec.bound.2 ⟨text, by simpa [resolution?, hb] using hx⟩)
      exact queued_of_past hpast (Or.inr ⟨r, hstage⟩)
    | error e =>
      rcases fails_or_inherits hopen hx with hself | ⟨m, hm, hr⟩
      · exact queued_of_failsAlone hopen isOpen inside hself
      · obtain ⟨text, ht⟩ := resolved m hm
        rw [ht] at hr
        cases hr
  · obtain ⟨text, ht⟩ := resolved m ⟨b, hb, hrec.uses ▸ hm⟩
    rw [ht] at hnone
    cases hnone
  · exact queued_of_past hpast (Or.inl ⟨id, Or.inr hid⟩)

/-! The whole picture -/

/-- What is queued later has a larger id. -/
theorem id_lt_of_appends (hn : s.Numbered) {d : Command} (hc : Appends c s a)
    (bs : List Action) (hd : Appends d (s.run (a :: bs)) a') : c.id < d.id := by
  have hlater := hn.run (a :: bs)
  have hmem : c ∈ (s.run (a :: bs)).channel.outbox.commands :=
    mem_of_appends ⟨[], a, bs, rfl, hc⟩
  have hlast : ((s.run (a :: bs)).act a').channel.outbox.commands[
      (s.run (a :: bs)).channel.outbox.commands.length]? = some d := by
    rw [hd]
    simp
  rw [(hlater.act a').ids hlast]
  exact hlater.lt hmem

/-- However handles are built, awaited and forced, and however bindings, reader and writer take
turns: what is queued in the name of a handle is its assignment, and it is queued at one moment at
most. At rest on an open channel, the assignment of a handle that was built where something can
run has been queued once if all handles that it uses are bound, and else not at all. If they are
bound when the handle is built, the assignment is queued with this very action, before whatever
is queued later. -/
theorem assigned_once (hopen : opened number stem debug = .ok s) (as : List Action) :
    (∀ n c, Happens (Queues (.binding n) c) s as →
      ∃ b, (s.run as).bindings n = some b ∧ c.tag = .exec ∧
        c.text = Binding.source (s.handleAt n) b.expression) ∧
    (∀ n before before', AssignedAfter n s as before → AssignedAfter n s as before' →
      before' = before) ∧
    ((s.run as).AtRest → (s.run as).channel.isClosed = false →
      ∀ n, Happens (BuildsInside n) s as →
      ((∀ m, Uses (s.run as) n m → (s.run as).isBound m = true) →
        ∃! before, AssignedAfter n s as before) ∧
      ((∃ m, Uses (s.run as) n m ∧ (s.run as).isBound m = false) →
        ∀ before, ¬ AssignedAfter n s as before)) ∧
    (∀ before a after, as = before ++ a :: after → ∀ n b, BuildsInside n (s.run before) a →
      (s.run before).channel.isClosed = false → (s.run (before ++ [a])).bindings n = some b →
      (∀ m ∈ Binding.uses b.expression, (s.run before).isBound m = true) →
      ∃ c, Queues (.binding n) c (s.run before) a ∧
        ∀ mid a' rest d, after = mid ++ a' :: rest →
          Appends d (s.run (before ++ a :: mid)) a' → c.id < d.id) := by
  have hs := sound_opened hopen
  refine ⟨?_, ?_, ?_, ?_⟩
  · exact fun n c h => assignment_of_queues hopen h
  · exact fun n before before' h h' => assignedAfter_unique hs h h'
  · intro hrest isOpen n inside
    constructor
    · intro bound
      obtain ⟨before, hbefore⟩ :=
        exists_assignedAfter_iff.2 (queued_of_atRest hopen hrest isOpen inside bound)
      exact ⟨before, hbefore, fun before' h' => assignedAfter_unique hs hbefore h'⟩
    · rintro ⟨m, hm, unbound⟩ before h
      obtain ⟨c, hc⟩ := exists_assignedAfter_iff.1 ⟨before, h⟩
      rw [uses_bound_of_queues hopen hc hm] at unbound
      cases unbound
  · rintro before a after rfl n b hbuilds isOpen hb bound
    obtain ⟨c, hq⟩ := queues_of_buildsInside hopen hbuilds isOpen hb bound
    refine ⟨c, hq, ?_⟩
    rintro mid a' rest d rfl hd
    rw [run_append] at hd
    exact id_lt_of_appends ((numbered_opened hopen).run before) hq.2 mid hd

/-- Two handles are built, of which the second uses the first, and the background comes to rest. -/
def restingActions : List Action :=
  [.build true ⟨[['1']], []⟩, .build true ⟨[[], []], [.handle ⟨0, ['v'], 0⟩]⟩,
    .advance (.binding 0), .advance (.binding 1), .write, .write]

theorem atRest_resting : (newSession.run restingActions).AtRest :=
  ((sound_opened opened_newSession).run restingActions).atRest (by decide +kernel)
    (by decide +kernel) (by decide +kernel)

theorem assigned_once_resting :
    opened 0 ['v'] false = .ok newSession ∧ (newSession.run restingActions).AtRest ∧
    (newSession.run restingActions).channel.isClosed = false ∧
    (∃! before, AssignedAfter 0 newSession restingActions before) ∧
    ∀ before, ¬ AssignedAfter 1 newSession restingActions before := by
  have isOpen : (newSession.run restingActions).channel.isClosed = false := by decide +kernel
  have first : Happens (BuildsInside 0) newSession restingActions :=
    ⟨[], _, _, rfl, rfl, rfl, nofun⟩
  have second : Happens (BuildsInside 1) newSession restingActions :=
    ⟨restingActions.take 1, _, _, rfl, rfl, rfl, nofun⟩
  have usesNone : ((newSession.run restingActions).bindings 0).map (Binding.uses ·.expression) =
      some [] := by decide +kernel
  have usesOne : ((newSession.run restingActions).bindings 1).map (Binding.uses ·.expression) =
      some [0] := by decide +kernel
  have hrest := (assigned_once opened_newSession restingActions).2.2.1 atRest_resting isOpen
  refine ⟨opened_newSession, atRest_resting, isOpen, (hrest 0 first).1 ?_,
    (hrest 1 second).2 ⟨0, ?_⟩⟩
  · rintro m ⟨b, hb, hm⟩
    have huses : Binding.uses b.expression = [] := by simpa [hb] using usesNone
    rw [huses] at hm
    cases hm
  · obtain ⟨b, hb, huses⟩ := Option.map_eq_some_iff.1 usesOne
    exact ⟨⟨b, hb, by rw [huses]; exact List.mem_singleton_self 0⟩, by decide +kernel⟩

end Session

end RemoteInterpreter
