import RemoteInterpreter.Proofs.Delivery

/-!
# Every caller gets its own answer

Many callers wait at once, and the answers come in any order. A response is obtained by the
party whose command it answers, at most once, and is passed on as it was sent.
-/

namespace RemoteInterpreter.Session

variable {s : Session} {p q : Party} {n : Nat} {a : Action} {as : List Action} {r : Response}
variable {c : Command} {log : List RemoteLine} {number : Nat} {stem : Text} {debug : Bool}

/-! Whose command it is -/

/-- A caller sends a command itself, and is given its id. -/
def Sends (c : Command) (s : Session) (a : Action) : Prop :=
  a = .send c.tag c.text ∧ (s.channel.send c.tag c.text).2 = .ok c.id

/-- Who waits for an answer by its id was given the id by sending. -/
def AsksForSent (s : Session) (as : List Action) : Prop :=
  ∀ before request after id, as = before ++ .begin request :: after →
    request = .receive id ∨ request = .receivePayload id →
    ∃ c, c.id = id ∧ Happens (Sends c) s before

/-- The command of a party was queued in its name, or was sent before and the party asks for the
answer. -/
inductive Owns (p : Party) (c : Command) (s : Session) (as : List Action) : Prop
  | queued (queues : Happens (Queues p c) s as)
  | sent {n request} (party : p = .call n)
      (asks : request = .receive c.id ∨ request = .receivePayload c.id)
      (begins : Happens (Begins n request) s as) (sends : Happens (Sends c) s as)

theorem Sends.appends (h : Sends c s a) : Appends c s a := by
  obtain ⟨rfl, hid⟩ := h
  rcases send_cases c.tag c.text s.channel with ⟨e, -, he⟩ | ⟨-, -, hs⟩
  · rw [he] at hid
    cases hid
  · rw [hs] at hid
    have hid : s.channel.outbox.commands.length = c.id := Except.ok.inj hid
    simp [Appends, act, hs, Outbox.enqueue, hid]

theorem Owns.mem (h : Owns p c s as) : c ∈ (s.run as).channel.outbox.commands := by
  cases h with
  | queued queues => exact mem_of_queues queues
  | sent _ _ _ sends => exact mem_of_appends (sends.imp fun _ _ hs => hs.appends)

theorem Owns.append (h : Owns p c s as) (bs : List Action) : Owns p c s (as ++ bs) := by
  cases h with
  | queued queues => exact .queued (queues.append bs)
  | sent party asks begins sends => exact .sent party asks (begins.append bs) (sends.append bs)

theorem AsksForSent.of_append {bs : List Action} (h : AsksForSent s (as ++ bs)) :
    AsksForSent s as := by
  rintro before request after id rfl
  exact h before request (after ++ bs) id (by simp)

/-- The id for which a party waits is that of its own command. -/
theorem owns_of_given {id : Nat} {command : Option (Kind × Text)} (hasks : AsksForSent s as)
    (h : Given p id command s as) : ∃ c, c.id = id ∧ Owns p c s as := by
  cases h with
  | @queued c isId queues => exact ⟨c, isId, .queued queues⟩
  | @asked n request party asks begins =>
    obtain ⟨before, a, after, rfl, rfl, hn⟩ := begins
    obtain ⟨c, rfl, hc⟩ := hasks before request after id rfl asks
    exact ⟨c, rfl, .sent party asks ⟨before, _, after, rfl, rfl, hn⟩ (hc.append _)⟩

theorem Numbered.not_appends (hn : s.Numbered) (h : c ∈ s.channel.outbox.commands) :
    ¬ Appends c s a := by
  intro ha
  have hlt := hn.lt h
  have hlast : (s.act a).channel.outbox.commands[s.channel.outbox.commands.length]? = some c := by
    rw [ha]
    simp
  rw [(hn.act a).ids hlast] at hlt
  exact Nat.lt_irrefl _ hlt

/-- A command is queued at one moment. -/
theorem happens_together {P Q : Session → Action → Prop} (hn : s.Numbered)
    (hP : ∀ t a, P t a → Appends c t a) (hQ : ∀ t a, Q t a → Appends c t a)
    (h : Happens P s as) (h' : Happens Q s as) : Happens (fun t a => P t a ∧ Q t a) s as := by
  induction as using List.reverseRecOn with
  | nil => exact absurd h not_happens_nil
  | append_singleton as a ih =>
    have hrun := hn.run as
    rcases happens_concat.1 h with h | h
    · rcases happens_concat.1 h' with h' | h'
      · exact (ih h h').concat a
      · exact absurd (hQ _ _ h') (hrun.not_appends (mem_of_appends (h.imp hP)))
    · rcases happens_concat.1 h' with h' | h'
      · exact absurd (hP _ _ h) (hrun.not_appends (mem_of_appends (h'.imp hQ)))
      · exact .last ⟨h, h'⟩

/-- What is queued in the name of a party is the command of nobody else. -/
theorem Owns.eq_of_queues (hn : s.Numbered) (h : Owns q c s as)
    (hq : Happens (Queues p c) s as) : q = p := by
  cases h with
  | queued queues =>
    obtain ⟨_, _, _, -, ⟨hp, -⟩, ⟨hq, -⟩⟩ :=
      happens_together hn (fun _ _ h => h.2) (fun _ _ h => h.2) hq queues
    exact Option.some.inj (hq.symm.trans hp)
  | sent _ _ _ sends =>
    obtain ⟨_, _, _, -, ⟨hp, -⟩, ⟨rfl, -⟩⟩ :=
      happens_together hn (fun _ _ h => h.2) (fun _ _ h => h.appends) hq sends
    simp [sender?, act] at hp

/-! What is obtained -/

theorem id_of_obtains (hopen : opened number stem debug = .ok s) {id : Nat}
    (h : Obtains p id r (s.run as) a) : r.id = id :=
  (h.lies ((sound_opened hopen).run as) (recorded_opened hopen as)).1

/-- Whoever obtains a response obtains what the interpreter answered to its own command. -/
theorem own_of_obtains (hopen : opened number stem debug = .ok s) (ha : Answers log s as)
    (hasks : AsksForSent s as) {id : Nat} (h : Happens (Obtains p id r) s as) :
    ∃ c, Owns p c s as ∧ c.id = id ∧ .answer c r ∈ log := by
  obtain ⟨before, a, after, rfl, ho⟩ := h
  obtain ⟨hid, spot, -, hlies, -⟩ :=
    ho.lies ((sound_opened hopen).run before) (recorded_opened hopen before)
  obtain ⟨e, c', -, he, hreceives, -⟩ := ho.receives
  have hgiven : Given p id e.command s before := by
    refine (past_run hopen before he).waiting ?_
    cases hreceives with
    | takes stage => exact Or.inl stage
    | collects stage => exact Or.inr stage
  obtain ⟨c, hc, howns⟩ := owns_of_given hasks.of_append hgiven
  obtain ⟨k, hk⟩ := delivered_run hopen ha.of_append
  obtain ⟨d, hd, hanswer⟩ := hk.sent hlies
  have hanswer := List.mem_of_mem_take hanswer
  have heq : d = c := by
    refine ((numbered_opened hopen).run before).eq_of_id hd howns.mem ?_
    rw [hc, ← hid, (ha.answers hanswer).1]
  exact ⟨c, howns.append _, hc, heq ▸ hanswer⟩

/-- What has been obtained is not obtained again. -/
theorem obtained_once (hopen : opened number stem debug = .ok s) (ha : Answers log s as)
    {id : Nat} {r' : Response} (h : Obtains p id r (s.run as) a) :
    ¬ Happens (Obtains q id r') s as := by
  intro h'
  obtain ⟨hid, spot, hspot, hlies, -⟩ :=
    h.lies ((sound_opened hopen).run as) (recorded_opened hopen as)
  obtain ⟨k, hk⟩ := delivered_run hopen ha
  have hid' : r'.id = id := by
    obtain ⟨before, a, after, -, ho⟩ := h'
    exact id_of_obtains hopen ho
  subst hid'
  exact hspot (hk.alone hlies ⟨q, h'⟩ hid)

/-! What a call sends -/

theorem lt_begun_of_queues (hs : s.Sound) (h : Happens (Queues (.call n) c) s as) :
    n < (s.run as).begun := by
  obtain ⟨before, a, after, rfl, hq⟩ := h
  obtain ⟨uses, hc⟩ := hq.enqueues
  obtain ⟨e, he, -⟩ := hc.awaited _ hq.1
  obtain ⟨k, hk, -⟩ := Option.map_eq_some_iff.1 he
  rw [run_append, run_cons]
  exact Nat.lt_of_lt_of_le (((hs.run before).act a).lt_begun hk) (extends_run _ after).begun

/-- What is queued in the name of a call is the command of its request. -/
theorem command_of_queues (hopen : opened number stem debug = .ok s) {request : Request}
    (hb : Happens (Begins n request) s as) (hq : Happens (Queues (.call n) c) s as)
    (single : ∀ entries, (Call.ofRequest s.number request).goal ≠ .installed entries) :
    (Call.ofRequest s.number request).errand.command = some (c.tag, c.text) := by
  have hs := sound_opened hopen
  induction as using List.reverseRecOn with
  | nil => exact absurd hb not_happens_nil
  | append_singleton as a ih =>
    rcases happens_concat.1 hb with hbefore | ⟨rfl, rfl⟩
    · rcases happens_concat.1 hq with hq | hq
      · exact ih hbefore hq
      · obtain ⟨uses, hc⟩ := hq.enqueues
        have hsend := hc.sending
        rw [hq.1] at hsend
        generalize c.tag = kind, c.text = source at hsend
        cases hsend with
        | goes errand _ _ command =>
          obtain ⟨k, hk, rfl⟩ := Option.map_eq_some_iff.1 errand
          rw [← (from_of_begins hs hbefore hk).command, command]
        | stores call goal =>
          -- a pack of entries has no command of its own
          rcases (from_of_begins hs hbefore call).goal with hgoal | ⟨entries, rest, hgoal, -⟩
          · exact absurd (hgoal.symm.trans goal) (single _)
          · exact absurd hgoal (single entries)
    · rcases happens_concat.1 hq with hq | hq
      · exact absurd (lt_begun_of_queues hs hq) (Nat.lt_irrefl _)
      · exact absurd hq.1 (by simp [sender?, act, begin, putCall])

/-- The result of a call that sends a command was made of the interpreter's answer to this command,
unless the call failed before or its wait ended without one. -/
theorem own_of_result (hopen : opened number stem debug = .ok s) (ha : Answers log s as)
    (hasks : AsksForSent s as) {request : Request} {x : Except Error Answer}
    (hb : Happens (Begins n request) s as)
    (sends : (Call.ofRequest s.number request).errand.command ≠ none)
    (hx : (s.run as).result? n = some x)
    (own : (∃ v, x = .ok v) ∨ (Call.ofRequest s.number request).errand.uses = [] ∧
      ∃ text, x = .error (.channel (.remote text))) :
    ∃ c r, Happens (Queues (.call n) c) s as ∧
      (Call.ofRequest s.number request).errand.command = some (c.tag, c.text) ∧
      .answer c r ∈ log ∧ (Call.ofRequest s.number request).goal.Gives (.answered r) x ∧
      ((Call.ofRequest s.number request).goal = .payload →
        x = (r.outcome.mapError .channel).map .payload) := by
  obtain ⟨k, hk, hkx⟩ := Option.bind_eq_some_iff.1 hx
  have hfrom := from_of_begins (sound_opened hopen) hb hk
  obtain ⟨r, hstage, hgives⟩ := answered_of_result hopen hk hkx (by rwa [hfrom.command])
    (own.imp_right fun h => ⟨hfrom.uses.trans h.1, h.2⟩)
  have single : ∀ entries, (Call.ofRequest s.number request).goal ≠ .installed entries :=
    fun _ h => sends ((Call.Recorded.ofRequest s.number request).installs h).2
  have hgoal : k.goal = (Call.ofRequest s.number request).goal := by
    rcases hfrom.goal with h | ⟨entries, rest, h, -⟩
    · exact h
    · exact absurd h (single entries)
  have hpast : Past (.call n) k.errand s as := past_run hopen as (by rw [errand?_call, hk]; rfl)
  obtain ⟨c, howns, -, hanswer⟩ := own_of_obtains hopen ha hasks (hpast.answered hstage).2
  cases howns with
  | queued queues =>
    rw [hgoal] at hgives
    refine ⟨c, r, queues, command_of_queues hopen hb queues single, hanswer, hgives, ?_⟩
    intro hpayload
    rw [hpayload] at hgives
    obtain ⟨y, hy, rfl⟩ := hgives.of_payload
    cases hy
    rfl
  | @sent m request' party asks begins =>
    -- this request would be another one, without a command
    cases party
    have hnone : (Call.ofRequest s.number request').errand.command = none := by
      rcases asks with rfl | rfl <;> rfl
    rw [← (from_of_begins (sound_opened hopen) begins hk).command, hfrom.command] at hnone
    exact absurd hnone sends

/-! The whole picture -/

/-- However callers, reader and writer take turns: what a party obtains is what the interpreter
answered to its own command, which is nobody else's; it obtains it once, and nobody else does; and
it makes of it the payload, or the exception as it was raised. So whatever a call that sends a
command gives in the end, it gives for the answer to this command. -/
theorem answered_with_own (hopen : opened number stem debug = .ok s) (ha : Answers log s as)
    (hasks : AsksForSent s as) :
    (∀ p id r, Happens (Obtains p id r) s as →
      ∃ c, Owns p c s as ∧ c.id = id ∧ .answer c r ∈ log) ∧
    (∀ p q c, Happens (Queues p c) s as → Owns q c s as → q = p) ∧
    (∀ before a after p id r, as = before ++ a :: after → Obtains p id r (s.run before) a →
      Hears p r (s.run before) (s.run (before ++ [a])) ∧
      ∀ q r', ¬ Happens (Obtains q id r') s before) ∧
    (∀ n request x, Happens (Begins n request) s as →
      (Call.ofRequest s.number request).errand.command ≠ none →
      (s.run as).result? n = some x →
      ((∃ v, x = .ok v) ∨ (Call.ofRequest s.number request).errand.uses = [] ∧
        ∃ text, x = .error (.channel (.remote text))) →
      ∃ c r, Happens (Queues (.call n) c) s as ∧
        (Call.ofRequest s.number request).errand.command = some (c.tag, c.text) ∧
        .answer c r ∈ log ∧ (Call.ofRequest s.number request).goal.Gives (.answered r) x ∧
        ((Call.ofRequest s.number request).goal = .payload →
          x = (r.outcome.mapError .channel).map .payload)) := by
  refine ⟨?_, ?_, ?_, ?_⟩
  · intro p id r h
    exact own_of_obtains hopen ha hasks h
  · intro p q c hq howns
    exact howns.eq_of_queues (numbered_opened hopen) hq
  · rintro before a after p id r rfl h
    rw [run_concat]
    exact ⟨h.hears (recorded_opened hopen before), fun q r' => obtained_once hopen ha.of_append h⟩
  · intro n request x hb sends hx own
    exact own_of_result hopen ha hasks hb sends hx own

/-- Two calls send, and are answered the other way round. -/
def crossedActions : List Action :=
  [.begin (.sendAndReceive .exec ['a']), .begin (.sendAndReceive .eval ['b']), .advance (.call 0),
    .advance (.call 1), .write, .write, .carry 18,
    .feed [49, 61, 70, 65, 73, 76, 61, 69, 10, 48, 61, 80, 65, 83, 83, 61, 79, 75, 10],
    .read, .read, .advance (.call 0), .advance (.call 1)]

def crossedLog : List RemoteLine :=
  [.answer ⟨1, .eval, ['b']⟩ ⟨1, .fail, ['E']⟩, .answer ⟨0, .exec, ['a']⟩ ⟨0, .pass, ['O', 'K']⟩]

theorem answers_crossed : Answers crossedLog newSession crossedActions := by
  refine ⟨by decide, ?_, ?_, ?_, ?_⟩
  · intro c r h
    simp only [crossedLog, List.mem_cons, RemoteLine.answer.injEq, List.not_mem_nil, or_false] at h
    rcases h with ⟨rfl, rfl⟩ | ⟨rfl, rfl⟩ <;> exact ⟨rfl, by decide⟩
  · intro piece h
    simp [crossedLog] at h
  · have reads : ∀ n ∈ List.range 13, ∃ k ∈ List.range 3,
        fed (crossedActions.take n) <+: RemoteLine.stream (crossedLog.take k) ∧
        ∀ line ∈ crossedLog.take k, ∀ c ∈ line.command?,
          c ∈ (newSession.run (crossedActions.take n)).commandsRead := by
      decide +kernel
    intro before hb
    obtain ⟨k, -, hfed, hread⟩ :=
      reads before.length (List.mem_range.2 (Nat.lt_succ_of_le hb.length_le))
    rw [← List.prefix_iff_eq_take.1 hb] at hfed hread
    exact ⟨k, hfed, fun c r h => hread _ h c rfl⟩
  · intro before after h
    have hmem : Action.finish .closed ∈ crossedActions := by rw [h]; simp
    simp [crossedActions] at hmem

theorem answered_with_own_crossed :
    opened 0 ['v'] false = .ok newSession ∧ Answers crossedLog newSession crossedActions ∧
    AsksForSent newSession crossedActions ∧
    Happens (Obtains (.call 1) 1 ⟨1, .fail, ['E']⟩) newSession crossedActions ∧
    ∃ c, Owns (.call 1) c newSession crossedActions ∧ c.id = 1 ∧
      .answer c ⟨1, .fail, ['E']⟩ ∈ crossedLog := by
  have hasks : AsksForSent newSession crossedActions := by
    intro before request after id h asks
    have hmem : Action.begin request ∈ crossedActions := by rw [h]; simp
    rcases asks with rfl | rfl <;> simp [crossedActions] at hmem
  obtain ⟨e, he, hsent⟩ : ∃ e, (newSession.run (crossedActions.take 11)).errand? (.call 1) =
      some e ∧ e.stage = .sent (.ok 1) :=
    ⟨_, rfl, rfl⟩
  have harrived : (newSession.run (crossedActions.take 11)).channel.pending.arrived 1 =
      some ⟨1, .fail, ['E']⟩ := by decide +kernel
  have hobtains : Happens (Obtains (.call 1) 1 ⟨1, .fail, ['E']⟩) newSession crossedActions :=
    ⟨crossedActions.take 11, _, [], rfl, .atOnce he hsent harrived⟩
  exact ⟨opened_newSession, answers_crossed, hasks, hobtains,
    (answered_with_own opened_newSession answers_crossed hasks).1 _ _ _ hobtains⟩

end RemoteInterpreter.Session
