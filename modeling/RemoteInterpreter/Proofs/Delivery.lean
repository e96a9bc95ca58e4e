import RemoteInterpreter.Proofs.Reply
import RemoteInterpreter.Proofs.Outcome

/-!
# Where responses are

A response lies in the table, or at the place of the caller that waited for it, or some
party has obtained it. It enters at one of these spots when its line is read, moves on by
steps of its party, and is never at two of them.
-/

namespace RemoteInterpreter

/-- Where a response can be. -/
inductive Spot where
  | table
  | place (p : Session.Party)
  | gone
  deriving DecidableEq

namespace Session

variable {s : Session} {p : Party} {n k : Nat} {a : Action} {as : List Action} {r r' : Response}
variable {spot spot' : Spot} {log : List RemoteLine}

/-- The response is at this spot after the run. -/
def Lies (r : Response) (s : Session) (as : List Action) : Spot → Prop
  | .table => (s.run as).channel.pending.arrived r.id = some r
  | .place p => (s.run as).channel.pending.place p = .answered (.ok r)
  | .gone => ∃ p, Happens (Obtains p r.id r) s as

/-! One step -/

/-- Who obtains a response takes it from the table or from its own place. -/
theorem Obtains.lies {id : Nat} (hs : (s.run as).Sound)
    (hrec : ∀ {n k}, (s.run as).calls n = some k → k.Recorded)
    (h : Obtains p id r (s.run as) a) :
    r.id = id ∧ ∃ spot, spot ≠ .gone ∧ Lies r s as spot ∧
      ∀ r', r'.id = r.id → ¬ Lies r' s (as ++ [a]) spot := by
  obtain ⟨e, c, hc, he, hpending⟩ := h.pending hrec
  cases hc with
  | takes _ arrived =>
    have hid : r.id = id := hs.table.keyed arrived
    subst hid
    refine ⟨rfl, .table, by simp, arrived, ?_⟩
    intro r' hr' hlies
    rw [Lies, run_concat, hpending, hr'] at hlies
    simp at hlies
  | collects stage answer =>
    refine ⟨hs.id_of_answer he stage answer, .place p, by simp, answer, ?_⟩
    intro r' _ hlies
    rw [Lies, run_concat, hpending] at hlies
    simp [Channel.leave, Pending.place_leave] at hlies

/-- The reader cuts off no piece. -/
def Quiet (s : Session) (a : Action) : Prop :=
  a = .read → ∀ octets i, s.channel.inbox.read ≠ .piece octets i

/-- What is in the table or at a place was there before. -/
theorem lies_of_lies_concat (hq : Quiet (s.run as) a) (hspot : spot ≠ .gone)
    (h : Lies r s (as ++ [a]) spot) : Lies r s as spot := by
  have ht := tables_act (s.run as) a
  cases spot with
  | gone => exact absurd rfl hspot
  | table =>
    rw [Lies, run_concat] at h
    rw [Lies]
    generalize ((s.run as).act a).channel.pending = t at ht h
    cases ht with
    | delivers read => exact absurd read (hq rfl _ _)
    | moves _ moves =>
      cases moves with
      | @takes id =>
        by_cases hid : r.id = id
        · simp [hid] at h
        · simpa [hid] using h
      | sends => rwa [pending_send] at h
      | _ => exact h
    | _ => exact h
  | place p =>
    rw [Lies, run_concat] at h
    rw [Lies]
    generalize ((s.run as).act a).channel.pending = t at ht h
    cases ht with
    | keeps => exact h
    | delivers read => exact absurd read (hq rfl _ _)
    | closes => exact Pending.closePlace_eq_ok_iff.1 h
    | leaves => exact Pending.place_of_place_leave h (by simp)
    | @moves q _ _ _ _ moves =>
      cases moves with
      | parks =>
        by_cases hp : p = q
        · simp [hp] at h
        · simpa [hp] using h
      | collects => exact Pending.place_of_place_leave h (by simp)
      | letDown => exact Pending.place_of_place_leave h (by simp)
      | sends => rwa [pending_send] at h
      | _ => exact h

/-- A response stays where it is, or is obtained and leaves its spot. -/
theorem lies_concat (hs : (s.run as).Sound)
    (hrec : ∀ {n k}, (s.run as).calls n = some k → k.Recorded) (hq : Quiet (s.run as) a)
    (h : Lies r s (as ++ [a]) spot) : Lies r s as spot ∨ (spot = .gone ∧ ∃ spot', spot' ≠ .gone ∧
      Lies r s as spot' ∧ ∀ r', r'.id = r.id → ¬ Lies r' s (as ++ [a]) spot') := by
  by_cases hspot : spot = .gone
  · subst hspot
    obtain ⟨p, hp⟩ := h
    rcases happens_concat.1 hp with hp | hp
    · exact Or.inl ⟨p, hp⟩
    · exact Or.inr ⟨rfl, (hp.lies hs hrec).2⟩
  · exact Or.inl (lies_of_lies_concat hq hspot h)

/-- Where a response for an id goes when it is read. -/
def Lands (t : Pending Party) (id : Nat) : Spot → Prop
  | .table => t.waiter id = none
  | .place p => t.live? id = some p
  | .gone => False

theorem eq_of_lands {t : Pending Party} {id : Nat} (h : Lands t id spot) (h' : Lands t id spot') :
    spot = spot' := by
  have live : ∀ {p}, t.live? id = some p → t.waiter id ≠ none := by
    intro p hp hnone
    rw [(Pending.live?_eq_some_iff.1 hp).1] at hnone
    cases hnone
  cases spot with
  | gone => exact h.elim
  | table =>
    cases spot' with
    | gone => exact h'.elim
    | table => rfl
    | place p => exact absurd h (live h')
  | place p =>
    cases spot' with
    | gone => exact h'.elim
    | table => exact absurd h' (live h)
    | place q => rw [Option.some.inj (h.symm.trans h')]

theorem channel_read {octets : Octets} {i : Inbox} (h : s.channel.inbox.read = .piece octets i) :
    (s.act .read).channel = Channel.deliver octets { s.channel with inbox := i } := by
  simp [act, Channel.read?, h]

/-- Nobody obtains a response while the reader has its step. -/
theorem gone_before_read (h : Lies r s (as ++ [.read]) .gone) : Lies r s as .gone := by
  obtain ⟨p, hp⟩ := h
  rcases happens_concat.1 hp with hp | hp
  · exact ⟨p, hp⟩
  · cases hp

/-- A response that is read goes to its spot, and all others stay. -/
theorem lies_read {octets : Octets} {i : Inbox} {new : Response}
    (hread : (s.run as).channel.inbox.read = .piece octets i)
    (hpiece : Response.ofPiece? octets = some new) (h : Lies r s (as ++ [.read]) spot) :
    Lies r s as spot ∨ (r = new ∧ Lands (s.run as).channel.pending new.id spot) := by
  have hpending : (s.run (as ++ [.read])).channel.pending =
      (s.run as).channel.pending.insert new := by
    rw [run_concat, channel_read hread, Channel.deliver, hpiece]
  cases spot with
  | table =>
    rw [Lies, hpending, Pending.arrived_insert] at h
    split at h
    · next hid =>
      cases h
      exact Or.inr ⟨rfl, hid.2⟩
    · exact Or.inl h
  | place p =>
    rw [Lies, hpending, Pending.place_insert] at h
    split at h
    · next hlive =>
      cases h
      exact Or.inr ⟨rfl, hlive⟩
    · exact Or.inl h
  | gone => exact Or.inl (gone_before_read h)

theorem lies_read_nothing {octets : Octets} {i : Inbox}
    (hread : (s.run as).channel.inbox.read = .piece octets i)
    (hpiece : Response.ofPiece? octets = none) (h : Lies r s (as ++ [.read]) spot) :
    Lies r s as spot := by
  have hpending : (s.run (as ++ [.read])).channel.pending = (s.run as).channel.pending := by
    rw [run_concat, channel_read hread, Channel.deliver, hpiece]
  cases spot with
  | table => rwa [Lies, hpending] at h
  | place p => rwa [Lies, hpending] at h
  | gone => exact gone_before_read h

/-! All steps -/

/-- The reader has taken `k` lines, every response that is anywhere is the answer of one of them to
a command of the queue, and no two responses to one command are at different spots. -/
structure Delivered (log : List RemoteLine) (k : Nat) (s : Session) (as : List Action) : Prop where
  taken : Taken log k as (s.run as).channel.inbox
  sent : ∀ {r spot}, Lies r s as spot →
    ∃ c ∈ (s.run as).channel.outbox.commands, .answer c r ∈ log.take k
  alone : ∀ {r r' spot spot'}, Lies r s as spot → Lies r' s as spot' → r.id = r'.id → spot = spot'

theorem mem_commands_concat {c : Command} (h : c ∈ (s.run as).channel.outbox.commands)
    (a : Action) : c ∈ (s.run (as ++ [a])).channel.outbox.commands := by
  rw [run_concat]
  exact (prefix_commands_act _ a).subset h

theorem Delivered.quiet (h : Delivered log k s as) (hs : (s.run as).Sound)
    (hrec : ∀ {n k}, (s.run as).calls n = some k → k.Recorded) (ha : Answers log s (as ++ [a]))
    (hq : Quiet (s.run as) a) : Delivered log k s (as ++ [a]) := by
  refine ⟨?_, ?_, ?_⟩
  · rw [run_concat]
    exact h.taken.keep ha hq
  · intro r spot hl
    have hsent : ∃ c ∈ (s.run as).channel.outbox.commands, .answer c r ∈ log.take k := by
      rcases lies_concat hs hrec hq hl with hl | ⟨-, spot', -, hl, -⟩
      · exact h.sent hl
      · exact h.sent hl
    obtain ⟨c, hc, hmem⟩ := hsent
    exact ⟨c, mem_commands_concat hc a, hmem⟩
  · intro r r' spot spot' hl hl' hid
    rcases lies_concat hs hrec hq hl with hold | ⟨rfl, from', hne, hold, hleft⟩
    · rcases lies_concat hs hrec hq hl' with hold' | ⟨rfl, from'', hne, hold', hleft⟩
      · exact h.alone hold hold' hid
      · -- what has just been obtained was at the spot of the other, and has left it
        cases h.alone hold hold' hid
        exact absurd hl (hleft r hid)
    · rcases lies_concat hs hrec hq hl' with hold' | ⟨rfl, -⟩
      · cases h.alone hold hold' hid
        exact absurd hl' (hleft r' hid.symm)
      · rfl

/-- The answers of earlier lines are to other commands. -/
theorem Answers.other_command {c d : Command} (ha : Answers log s as)
    (hk : log[k]? = some (.answer c r)) (hd : .answer d r' ∈ log.take k) : d ≠ c := by
  rintro rfl
  have htake : log.take (k + 1) = log.take k ++ [.answer d r] := by simp [List.take_add_one, hk]
  have hnodup := ha.once.sublist ((List.take_sublist (k + 1) log).filterMap RemoteLine.command?)
  rw [htake, List.filterMap_append, List.nodup_append] at hnodup
  exact hnodup.2.2 d (List.mem_filterMap.2 ⟨_, hd, rfl⟩) d (by simp [RemoteLine.command?]) rfl

theorem Delivered.read {octets : Octets} {i : Inbox} (h : Delivered log k s as)
    (hn : (s.run as).Numbered) (ho : (s.run as).channel.outbox.Ordered) (ha : Answers log s as)
    (hread : (s.run as).channel.inbox.read = .piece octets i) :
    Delivered log (k + 1) s (as ++ [.read]) := by
  obtain ⟨⟨line, hline, hoctets⟩, hcommands, htaken⟩ := h.taken.next ha hread
  have hinbox : (s.run (as ++ [.read])).channel.inbox = i := by
    rw [run_concat, inbox_act, hread]
    rfl
  have old : ∀ {r spot}, Lies r s as spot → ∃ c ∈ (s.run (as ++ [.read])).channel.outbox.commands,
      .answer c r ∈ log.take (k + 1) := by
    intro r spot hl
    obtain ⟨c, hc, hmem⟩ := h.sent hl
    exact ⟨c, mem_commands_concat hc _, (List.take_prefix_take_left (Nat.le_succ k)).subset hmem⟩
  cases line with
  | other piece =>
    have hpiece : Response.ofPiece? octets = none := by
      rw [← hoctets]
      exact (ha.others (List.mem_of_getElem? hline)).2
    have stays : ∀ {r spot}, Lies r s (as ++ [.read]) spot → Lies r s as spot :=
      lies_read_nothing hread hpiece
    exact ⟨by rw [hinbox]; exact htaken, fun hl => old (stays hl),
      fun hl hl' => h.alone (stays hl) (stays hl')⟩
  | answer c new =>
    obtain ⟨hid, htext⟩ := ha.answers (List.mem_of_getElem? hline)
    have hnew : .answer c new ∈ log.take (k + 1) := by simp [List.take_add_one, hline]
    obtain ⟨hc, hbound⟩ := mem_commands_of_read hn ho (hcommands c new hnew)
    have hpiece : Response.ofPiece? octets = some new := by
      rw [← hoctets]
      exact Response.ofPiece?_encode (hid ▸ hbound) htext
    -- nothing that is anywhere answers the same command
    have fresh : ∀ {r spot}, Lies r s as spot → r.id ≠ new.id := by
      intro r spot hl heq
      obtain ⟨d, hd, hmem⟩ := h.sent hl
      refine ha.other_command hline hmem (hn.eq_of_id hd hc ?_)
      rw [← (ha.answers (List.mem_of_mem_take hmem)).1, heq, hid]
    refine ⟨by rw [hinbox]; exact htaken, ?_, ?_⟩
    · intro r spot hl
      rcases lies_read hread hpiece hl with hl | ⟨rfl, -⟩
      · exact old hl
      · exact ⟨c, mem_commands_concat hc _, hnew⟩
    · intro r r' spot spot' hl hl' heq
      rcases lies_read hread hpiece hl with hl | ⟨rfl, hlands⟩
      · rcases lies_read hread hpiece hl' with hl' | ⟨rfl, -⟩
        · exact h.alone hl hl' heq
        · exact absurd heq (fresh hl)
      · rcases lies_read hread hpiece hl' with hl' | ⟨rfl, hlands'⟩
        · exact absurd heq.symm (fresh hl')
        · exact eq_of_lands hlands hlands'

/-! From the beginning -/

variable {number : Nat} {stem : Text} {debug : Bool}

theorem channel_opened (hopen : opened number stem debug = .ok s) :
    s.channel = Channel.opened debug := by
  unfold opened at hopen
  split at hopen
  · cases hopen; rfl
  · cases hopen

theorem delivered_opened (hopen : opened number stem debug = .ok s) : Delivered log 0 s [] := by
  have hc := channel_opened hopen
  have nowhere : ∀ {r spot}, ¬ Lies r s [] spot := by
    intro r spot hl
    cases spot with
    | table => simp [Lies, hc, Channel.opened, Pending.empty] at hl
    | place p => simp [Lies, hc, Channel.opened, Pending.empty] at hl
    | gone => exact not_happens_nil hl.choose_spec
  refine ⟨?_, fun hl => absurd hl nowhere, fun hl => absurd hl nowhere⟩
  rw [run_nil, hc]
  exact taken_empty

/-- Whenever the interpreter answers its commands, every response is at one spot and belongs
there. -/
theorem delivered_run (hopen : opened number stem debug = .ok s) (ha : Answers log s as) :
    ∃ k, Delivered log k s as := by
  induction as using List.reverseRecOn with
  | nil => exact ⟨0, delivered_opened hopen⟩
  | append_singleton as a ih =>
    obtain ⟨k, hk⟩ := ih ha.of_append
    have hs := (sound_opened hopen).run as
    by_cases hread : ∃ octets i, a = .read ∧ (s.run as).channel.inbox.read = .piece octets i
    · obtain ⟨octets, i, rfl, hread⟩ := hread
      have ho : s.channel.outbox.Ordered := by
        rw [channel_opened hopen]
        exact ⟨Nat.le_refl _, rfl⟩
      exact ⟨k + 1, hk.read ((numbered_opened hopen).run as) (ordered_run ho as) ha.of_append hread⟩
    · have hq : Quiet (s.run as) a := fun hr octets i hi => hread ⟨octets, i, hr, hi⟩
      exact ⟨k, hk.quiet hs (recorded_opened hopen as) ha hq⟩

end Session

end RemoteInterpreter
