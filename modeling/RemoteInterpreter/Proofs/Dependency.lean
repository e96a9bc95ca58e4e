import RemoteInterpreter.Proofs.Naming

/-!
# Use after binding

A command that refers to handles is queued after all of them were bound: the assignment of
each was queued before, and the answer to it was that it went well. So the assignments
are queued in an order in which every handle comes after those it uses.
-/

namespace RemoteInterpreter.Session

variable {s : Session} {p : Party} {n : Nat} {a : Action} {as : List Action}
variable {number : Nat} {stem : Text} {debug : Bool}

/-- A handle that counts as bound was sent, and was answered that it went well. -/
theorem passed_of_isBound (hopen : opened number stem debug = .ok s)
    (hn : (s.run as).isBound n = true) :
    ∃ b sent answer, (s.run as).bindings n = some b ∧
      Happens (Queues (.binding n) sent) s as ∧
      sent.tag = .exec ∧ sent.text = Binding.source (s.handleAt n) b.expression ∧
      Happens (Obtains (.binding n) sent.id answer) s as ∧
      answer.id = sent.id ∧ answer.tag = .pass := by
  have hs := (sound_opened hopen).run as
  cases hb : (s.run as).bindings n with
  | none => simp [isBound, hb] at hn
  | some b =>
    have hrec := hs.recorded hb
    obtain ⟨answer, hstage, hpass⟩ := hrec.passed (by simpa [isBound, hb] using hn)
    have hpast : Past (.binding n) b.errand s as := past_run hopen as (by simp [hb])
    obtain ⟨hgiven, hobtains⟩ := hpast.answered hstage
    obtain ⟨sent, hid, hsent, htag, htext⟩ := sent_of_given hs hb hgiven
    exact ⟨b, sent, answer, rfl, hsent, htag, htext, hid ▸ hobtains, hid.symm, hpass⟩

/-- What a party has named is among the handles of the command that is queued for it. -/
theorem Enqueues.mem_uses (hopen : opened number stem debug = .ok s) {uses : List Nat}
    {c : Command} {h : Handle} (hq : Enqueues (s.run as) a uses c)
    (sender : (s.run as).sender? a = some p) (names : Happens (Names p h) s (as ++ [a])) :
    h.number ∈ uses := by
  have hs := (sound_opened hopen).run as
  have hsend := hq.sending
  rw [sender] at hsend
  generalize c.tag = kind, c.text = source at hsend
  cases hsend with
  | builds compose =>
    rcases happens_concat.1 names with names | names
    · exact absurd (made_of_names names) (Nat.lt_irrefl _)
    · exact List.mem_map_of_mem ((Expression.mem_uses_of_compose compose).2 names.mem_of_build)
  | imports =>
    rcases happens_concat.1 names with names | names
    · exact absurd (made_of_names names) (Nat.lt_irrefl _)
    · exact absurd names not_names_advance
  | goes errand stage =>
    rcases happens_concat.1 names with names | names
    · rcases mem_uses_of_names (sound_opened hopen) names errand with hmem | ⟨e, he⟩
      · exact hmem
      · rw [stage] at he
        cases he
    · exact absurd names not_names_advance
  | stores call goal stage =>
    rcases happens_concat.1 names with names | names
    · have hrec := recorded_opened hopen as call
      have hmem := mem_uses_of_names (sound_opened hopen) names (by rw [errand?_call, call]; rfl)
      rw [(hrec.installs goal).1, stage] at hmem
      simp at hmem
    · exact absurd names not_names_advance

/-- Whatever is queued in the name of a party comes after the handles that the party names: the
assignment of each was queued before, once, and was answered that it went well. -/
theorem queued_after_bound (hopen : opened number stem debug = .ok s) {c : Command} {h : Handle}
    (queues : Queues p c (s.run as) a) (names : Happens (Names p h) s (as ++ [a])) :
    ∃ b sent answer, (s.run as).bindings h.number = some b ∧
      Happens (Queues (.binding h.number) sent) s as ∧
      (∀ other, Happens (Queues (.binding h.number) other) s as → other = sent) ∧
      sent.tag = .exec ∧ sent.text = Binding.source (s.handleAt h.number) b.expression ∧
      Happens (Obtains (.binding h.number) sent.id answer) s as ∧
      answer.id = sent.id ∧ answer.tag = .pass ∧ sent.id < c.id := by
  obtain ⟨uses, hq⟩ := queues.enqueues
  have hsound := sound_opened hopen
  have hbound := hq.isBound (hsound.run as) h.number (hq.mem_uses hopen queues.1 names)
  obtain ⟨b, sent, answer, hb, hsent, htag, htext, hobtains, hid, hpass⟩ :=
    passed_of_isBound hopen hbound
  have hlt : sent.id < c.id := by
    rw [hq.id]
    exact ((numbered_opened hopen).run as).lt (mem_of_queues hsent)
  exact ⟨b, sent, answer, hb, hsent, fun _ ho => eq_of_queues hsound ho hsent, htag, htext,
    hobtains, hid, hpass, hlt⟩

/-- The first handle is built, and its assignment is answered with OK. -/
def pairActions : List Action :=
  [.build true ⟨[['1']], []⟩, .advance (.binding 0),
    .feed [48, 61, 80, 65, 83, 83, 61, 79, 75, 10], .read, .advance (.binding 0)]

def pairBuild : Action := .build true ⟨[[], []], [.handle ⟨0, ['v'], 0⟩]⟩

theorem queued_after_bound_pair :
    opened 0 ['v'] false = .ok newSession ∧
    Queues (.binding 1) ⟨1, .exec, ['v', '1', ' ', '=', ' ', 'v', '0']⟩
      (newSession.run pairActions) pairBuild ∧
    Happens (Names (.binding 1) ⟨0, ['v'], 0⟩) newSession (pairActions ++ [pairBuild]) ∧
    ∃ sent answer, Happens (Queues (.binding 0) sent) newSession pairActions ∧
      Happens (Obtains (.binding 0) sent.id answer) newSession pairActions ∧
      answer.tag = .pass ∧ sent.id < 1 := by
  have hopen := opened_newSession
  have hqueues : Queues (.binding 1) ⟨1, .exec, ['v', '1', ' ', '=', ' ', 'v', '0']⟩
      (newSession.run pairActions) pairBuild := ⟨by decide +kernel, by decide +kernel⟩
  have hbuilt : (newSession.run pairActions).built = 1 := by decide +kernel
  have hnumber : (newSession.run pairActions).number = 0 := (extends_run _ _).number
  have hnames : Names (.binding 1) ⟨0, ['v'], 0⟩ (newSession.run pairActions) pairBuild := by
    rw [← hbuilt]
    exact .building (x := ⟨['v', '0'], [⟨0, ['v'], 0⟩]⟩) (by rw [hnumber]; rfl) (by decide)
  obtain ⟨b, sent, answer, -, hsent, -, -, -, hobtains, -, hpass, hlt⟩ :=
    queued_after_bound hopen hqueues (.last hnames)
  exact ⟨hopen, hqueues, .last hnames, sent, answer, hsent, hobtains, hpass, hlt⟩

end RemoteInterpreter.Session
