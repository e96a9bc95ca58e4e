import RemoteInterpreter.Proofs.Correlation
import RemoteInterpreter.Proofs.Registration

/-!
# What a call does

With one of its steps a call stores an entry, queues a command, or hears a response. In the course
of a run these are its deeds, in order. Only a call that is there and has not ended does anything.
-/

namespace RemoteInterpreter.Session

variable {s : Session} {n : Nat} {k : Call} {a : Action} {as : List Action}
variable {p : Party} {e : Entry} {c : Command} {r : Response}

/-- What a call does step by step. -/
inductive Deed where
  | stores (e : Entry)
  | queues (c : Command)
  | hears (r : Response)
  deriving DecidableEq, Repr

namespace Deed

def entry? : Deed → Option Entry
  | .stores e => some e
  | _ => none

def isPass : Deed → Bool
  | .hears r => r.isPass
  | _ => false

end Deed

/-- The response that a party obtains if it has its turn. -/
def obtained? (p : Party) (s : Session) : Option Response :=
  match (s.errand? p).map Errand.stage with
  | some (.sent (.ok id)) => s.channel.pending.arrived id
  | some (.parked _) =>
    match s.channel.pending.place p with
    | .answered (.ok r) => some r
    | _ => none
  | _ => none

/-- The commands that an action queues in the name of a party. -/
def queuedFor (p : Party) (s : Session) (a : Action) : List Command :=
  if s.sender? a = some p then
    (s.act a).channel.outbox.commands.drop s.channel.outbox.commands.length
  else []

/-- What a call does with an action. -/
def deedsAt (n : Nat) (s : Session) : Action → List Deed
  | .advance (.call m) =>
    if m = n then
      (s.entered? (.advance (.call n))).toList.map .stores ++
        ((s.queuedFor (.call n) (.advance (.call n))).map .queues ++
          (s.obtained? (.call n)).toList.map .hears)
    else []
  | _ => []

/-- What a call does in the course of a run. -/
def deeds (n : Nat) : Session → List Action → List Deed
  | _, [] => []
  | s, a :: as => s.deedsAt n a ++ deeds n (s.act a) as

/-- The entries that it stores. -/
def storedBy (n : Nat) (s : Session) (as : List Action) : List Entry :=
  (s.deeds n as).filterMap Deed.entry?

theorem obtained?_eq_some_iff :
    s.obtained? p = some r ↔ ∃ id, Obtains p id r s (.advance p) := by
  constructor
  · intro h
    unfold obtained? at h
    split at h
    · next id hstage =>
      obtain ⟨e, he, hs⟩ := Option.map_eq_some_iff.1 hstage
      exact ⟨id, .atOnce he hs h⟩
    · next id hstage =>
      obtain ⟨e, he, hs⟩ := Option.map_eq_some_iff.1 hstage
      split at h
      · next hplace =>
        cases h
        exact ⟨id, .later he hs hplace⟩
      · cases h
    · cases h
  · rintro ⟨id, h⟩
    cases h with
    | atOnce errand stage arrived => simp [obtained?, errand, stage, arrived]
    | later errand stage answer => simp [obtained?, errand, stage, answer]

theorem queuedFor_of_queues (h : Queues p c s a) : s.queuedFor p a = [c] := by
  rw [queuedFor, if_pos h.1, h.2, List.drop_left]

/-- An action queues one command in the name of a party, or none. -/
theorem queuedFor_cases (p : Party) (s : Session) (a : Action) :
    s.queuedFor p a = [] ∨ ∃ c, s.queuedFor p a = [c] ∧ Queues p c s a := by
  by_cases hsender : s.sender? a = some p
  · rcases enqueues_act s a with heq | ⟨uses, c, hc⟩
    · rw [queuedFor, heq, List.drop_length, ite_self]
      exact Or.inl rfl
    · have hq : Queues p c s a := ⟨hsender, hc.commands⟩
      exact Or.inr ⟨c, queuedFor_of_queues hq, hq⟩
  · rw [queuedFor, if_neg hsender]
    exact Or.inl rfl

theorem mem_queuedFor : c ∈ s.queuedFor p a ↔ Queues p c s a := by
  constructor
  · intro hmem
    rcases queuedFor_cases p s a with hnone | ⟨d, hone, hq⟩
    · rw [hnone] at hmem
      cases hmem
    · rw [hone, List.mem_singleton] at hmem
      rwa [hmem]
  · intro hq
    rw [queuedFor_of_queues hq]
    exact List.mem_cons_self

theorem deedsAt_advance (n : Nat) (s : Session) : s.deedsAt n (.advance (.call n)) =
    (s.entered? (.advance (.call n))).toList.map .stores ++
      ((s.queuedFor (.call n) (.advance (.call n))).map .queues ++
        (s.obtained? (.call n)).toList.map .hears) := by
  rw [deedsAt, if_pos rfl]

theorem deedsAt_of_ne (h : a ≠ .advance (.call n)) : s.deedsAt n a = [] := by
  unfold deedsAt
  split
  · next m =>
    rw [if_neg]
    rintro rfl
    exact h rfl
  · rfl

theorem advance_of_mem_deedsAt {d : Deed} (h : d ∈ s.deedsAt n a) : a = .advance (.call n) := by
  by_contra hne
  rw [deedsAt_of_ne hne] at h
  cases h

theorem call_of_installs (h : Installs e s (.advance (.call n))) : ∃ k rest,
    s.calls n = some k ∧ k.result = none ∧ k.goal = .installed (e :: rest) ∧
      k.errand.stage = .held := by
  cases h with
  | intro call live goal stage => exact ⟨_, _, call, live, goal, stage⟩

theorem stores_mem_deedsAt :
    .stores e ∈ s.deedsAt n a ↔ a = .advance (.call n) ∧ Installs e s a := by
  constructor
  · intro h
    obtain rfl := advance_of_mem_deedsAt h
    simp only [deedsAt_advance, List.mem_append, List.mem_map, Option.mem_toList,
      Deed.stores.injEq, exists_eq_right, reduceCtorEq, and_false, exists_false, or_false] at h
    exact ⟨rfl, (entered?_eq_some_iff.1 h).resolve_left nofun⟩
  · rintro ⟨rfl, h⟩
    simp [deedsAt_advance, entered?_eq_some_iff.2 (Or.inr h)]

theorem queues_mem_deedsAt : .queues c ∈ s.deedsAt n a ↔ Queues (.call n) c s a := by
  constructor
  · intro h
    obtain rfl := advance_of_mem_deedsAt h
    simp only [deedsAt_advance, List.mem_append, List.mem_map, Option.mem_toList,
      Deed.queues.injEq, exists_eq_right, reduceCtorEq, and_false, exists_false, or_false,
      false_or] at h
    exact mem_queuedFor.1 h
  · intro h
    have ha : a = .advance (.call n) := by
      have hsender := h.1
      unfold sender? at hsender
      split at hsender
      · cases hsender
      · split at hsender
        · cases hsender
          rfl
        · cases hsender
    subst ha
    simp [deedsAt_advance, mem_queuedFor.2 h]

theorem hears_mem_deedsAt :
    .hears r ∈ s.deedsAt n a ↔ ∃ id, Obtains (.call n) id r s a := by
  constructor
  · intro h
    obtain rfl := advance_of_mem_deedsAt h
    simp only [deedsAt_advance, List.mem_append, List.mem_map, Option.mem_toList,
      Deed.hears.injEq, exists_eq_right, reduceCtorEq, and_false, exists_false, false_or] at h
    exact obtained?_eq_some_iff.1 h
  · rintro ⟨id, h⟩
    have ha : a = .advance (.call n) := by cases h <;> rfl
    subst ha
    simp [deedsAt_advance, obtained?_eq_some_iff.2 ⟨id, h⟩]

theorem deeds_concat (n : Nat) (s : Session) (as : List Action) (a : Action) :
    s.deeds n (as ++ [a]) = s.deeds n as ++ (s.run as).deedsAt n a := by
  induction as generalizing s with
  | nil => exact List.append_nil _
  | cons b as ih => rw [List.cons_append, deeds, ih, deeds, List.append_assoc, run_cons]

/-- A call that queues a command was held, with a command of its own or with an entry to store. -/
theorem held_of_queues (h : Queues (.call n) c s a) : ∃ k, s.calls n = some k ∧
    k.errand.stage = .held ∧
      (k.errand.command ≠ none ∨ ∃ e rest, k.goal = .installed (e :: rest)) := by
  obtain ⟨uses, hc⟩ := h.enqueues
  have hsending := hc.sending
  rw [h.1] at hsending
  generalize c.tag = kind, c.text = source at hsending
  cases hsending with
  | goes errand stage _ command =>
    obtain ⟨k, hk, rfl⟩ := Option.map_eq_some_iff.1 errand
    exact ⟨k, hk, stage, Or.inl (by rw [command]; nofun)⟩
  | stores call goal stage => exact ⟨_, call, stage, Or.inr ⟨_, _, goal⟩⟩

theorem waits_of_obtains {id : Nat} (h : Obtains (.call n) id r s a) : ∃ k, s.calls n = some k ∧
    (k.errand.stage = .sent (.ok id) ∨ k.errand.stage = .parked id) := by
  cases h with
  | atOnce errand stage =>
    obtain ⟨k, hk, rfl⟩ := Option.map_eq_some_iff.1 errand
    exact ⟨k, hk, Or.inl stage⟩
  | later errand stage =>
    obtain ⟨k, hk, rfl⟩ := Option.map_eq_some_iff.1 errand
    exact ⟨k, hk, Or.inr stage⟩

/-- Only a call that is there and has not ended does something. -/
theorem live_of_mem_deedsAt (hrec : ∀ {n k}, s.calls n = some k → k.Recorded) {d : Deed}
    (h : d ∈ s.deedsAt n a) : ∃ k, s.calls n = some k ∧ k.result = none := by
  cases d with
  | stores e =>
    obtain ⟨rfl, call, live, -, -⟩ := stores_mem_deedsAt.1 h
    exact ⟨_, call, live⟩
  | queues c =>
    obtain ⟨k, call, stage, hsends⟩ := held_of_queues (queues_mem_deedsAt.1 h)
    refine ⟨k, call, (hrec call).live_of_held stage fun goal => ?_⟩
    rcases hsends with hcommand | ⟨e, rest, hgoal⟩
    · exact hcommand ((hrec call).installs goal).2
    · rw [goal] at hgoal
      cases hgoal
  | hears r =>
    obtain ⟨id, hr⟩ := hears_mem_deedsAt.1 h
    obtain ⟨k, call, stage⟩ := waits_of_obtains hr
    refine ⟨k, call, (hrec call).live_of_waiting ?_ ?_⟩
    · rcases stage with stage | stage <;> rw [stage] <;> rfl
    · rcases stage with stage | stage <;> rw [stage] <;> nofun

theorem deedsAt_eq_nil (hrec : ∀ {n k}, s.calls n = some k → k.Recorded)
    (h : ∀ k, s.calls n = some k → k.result ≠ none) (a : Action) : s.deedsAt n a = [] := by
  rw [List.eq_nil_iff_forall_not_mem]
  intro d hd
  obtain ⟨k, call, live⟩ := live_of_mem_deedsAt hrec hd
  exact h k call live

/-- A call that waits for an answer can only hear it. -/
theorem deedsAt_of_waiting (call : s.calls n = some k) (unheld : k.errand.stage ≠ .held) :
    s.deedsAt n (.advance (.call n)) = (s.obtained? (.call n)).toList.map .hears := by
  have hentered : s.entered? (.advance (.call n)) = none := by
    rw [Option.eq_none_iff_forall_not_mem]
    intro e he
    rcases entered?_eq_some_iff.1 he with h | ⟨call', -, -, stage⟩
    · cases h
    · cases call.symm.trans call'
      exact unheld stage
  have hqueued : s.queuedFor (.call n) (.advance (.call n)) = [] := by
    rcases queuedFor_cases (.call n) s (.advance (.call n)) with h | ⟨c, -, hq⟩
    · exact h
    · obtain ⟨k', call', stage, -⟩ := held_of_queues hq
      cases call.symm.trans call'
      exact absurd stage unheld
  rw [deedsAt_advance, hentered, hqueued]
  rfl

/-- A call that is held hears nothing. -/
theorem obtained?_of_held (call : s.calls n = some k) (held : k.errand.stage = .held) :
    s.obtained? (.call n) = none := by
  simp [obtained?, call, held]

end RemoteInterpreter.Session
