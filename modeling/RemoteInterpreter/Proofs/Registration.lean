import RemoteInterpreter.Proofs.History
import RemoteInterpreter.Proofs.Lines
import RemoteInterpreter.Proofs.Queue
import RemoteInterpreter.Proofs.Record

/-!
# The last registration of a tag

An entry is stored in one step. Somebody registers it on this side only, or the call that installs
it has its turn, and then its encoder is queued in the same step. So the stored entry and the
encoder that the interpreter uses belong together, in whatever order several calls have their
turns. Registering makes a new registry, and whoever holds an earlier one keeps it as it was.
-/

namespace RemoteInterpreter

/-! Registries in memory -/

/-- All registries that were ever made, each at its place, and the place of the present one. A
snapshot is a place. -/
structure Memory where
  made : List Registry
  current : Nat

namespace Memory

def opened : Memory := ⟨[[]], 0⟩

def at? (place : Nat) (m : Memory) : Option Registry := m.made[place]?

/-- The present registry is copied, and the copy gets the entry and becomes the present one. -/
def enter (m : Memory) (e : Entry) : Memory :=
  ⟨m.made ++ [((m.at? m.current).getD []).register e], m.made.length⟩

/-- The value of a payload, by the registry at a place. -/
def decode? (place : Nat) (text : Text) (m : Memory) : Option (Except DecodeError Value) :=
  (m.at? place).map fun r => Decode.payload r text

variable {m : Memory} {r : Registry} {place : Nat}

theorem at?_enter (h : m.at? place = some r) (e : Entry) : (m.enter e).at? place = some r := by
  obtain ⟨hlt, -⟩ := List.getElem?_eq_some_iff.1 h
  rw [at?, enter, List.getElem?_append_left hlt]
  exact h

theorem current_enter (h : m.at? m.current = some r) (e : Entry) :
    (m.enter e).at? (m.enter e).current = some (r.register e) := by
  rw [enter, h]
  exact List.getElem?_concat_length

/-- What lies at a place stays there. -/
theorem at?_foldl (h : m.at? place = some r) (entries : List Entry) :
    (entries.foldl enter m).at? place = some r := by
  induction entries generalizing m with
  | nil => exact h
  | cons e entries ih => exact ih (at?_enter h e)

theorem current_foldl (h : m.at? m.current = some r) (entries : List Entry) :
    (entries.foldl enter m).at? (entries.foldl enter m).current =
      some (entries.foldl (fun r e => r.register e) r) := by
  induction entries generalizing m r with
  | nil => exact h
  | cons e entries ih => exact ih (current_enter h e)

end Memory

namespace Session

variable {s : Session} {n : Nat} {k : Call} {a : Action} {as before : List Action}
variable {e d : Entry} {tag encoder : Text} {c : Command}
variable {number : Nat} {stem : Text} {debug : Bool}

/-! Storing an entry -/

/-- A call that installs entries has its turn, and this entry is the next one. -/
inductive Installs (e : Entry) (s : Session) : Action → Prop
  | intro {n k rest} (call : s.calls n = some k) (live : k.result = none)
      (goal : k.goal = .installed (e :: rest)) (stage : k.errand.stage = .held) :
    Installs e s (.advance (.call n))

/-- The entry that an action stores, if it stores one. -/
def entered? (s : Session) : Action → Option Entry
  | .registerLocal e => some e
  | .advance (.call n) =>
    match s.calls n with
    | some ⟨.installed (e :: _), ⟨_, _, .held⟩, none⟩ => some e
    | _ => none
  | _ => none

/-- The action stores this entry. -/
def Enters (e : Entry) (s : Session) (a : Action) : Prop := a = .registerLocal e ∨ Installs e s a

/-- The action stores an entry for this tag. -/
def EntersFor (tag : Text) (s : Session) (a : Action) : Prop := ∃ e, Enters e s a ∧ e.tag = tag

theorem entered?_eq_some_iff : s.entered? a = some e ↔ Enters e s a := by
  constructor
  · intro h
    unfold entered? at h
    split at h
    · cases h
      exact Or.inl rfl
    · split at h
      · next call =>
        cases h
        exact Or.inr ⟨call, rfl, rfl, rfl⟩
      · cases h
    · cases h
  · rintro (rfl | ⟨call, live, goal, stage⟩)
    · rfl
    · next n k rest =>
      obtain ⟨_, ⟨_, _, _⟩, _⟩ := k
      cases goal
      cases stage
      cases live
      simp only [entered?, call]

theorem Enters.unique (h : Enters e s a) (h' : Enters d s a) : d = e :=
  Option.some.inj ((entered?_eq_some_iff.2 h').symm.trans (entered?_eq_some_iff.2 h))

theorem act_of_installs (h : Installs e s a) :
    ∃ n k rest, a = .advance (.call n) ∧ s.calls n = some k ∧ k.goal = .installed (e :: rest) ∧
      s.act a = s.store n k e rest := by
  obtain @⟨n, k, rest, call, live, goal, stage⟩ := h
  refine ⟨n, k, rest, rfl, call, goal, ?_⟩
  simp only [act, advance?, advanceCall?, call, live, goal, stage, Option.getD_some]

/-! What is stored -/

@[simp] theorem registry_bind (running : Bool) (x : Expression) (s : Session) :
    (s.bind running x).registry = s.registry := by
  obtain ⟨c, b, -, heq⟩ := bind_eq running x s
  rw [heq]; rfl

@[simp] theorem registry_markEvaluated (n : Nat) (s : Session) :
    (s.markEvaluated n).registry = s.registry := by
  unfold markEvaluated; split <;> rfl

@[simp] theorem registry_putCall (n : Nat) (k : Call) (s : Session) :
    (s.putCall n k).registry = s.registry := rfl

theorem registry_store (n : Nat) (k : Call) (e : Entry) (rest : List Entry) (s : Session) :
    (s.store n k e rest).registry = s.registry.register e := by
  have hst := stores_store n k e rest s
  generalize s.store n k e rest = s' at hst
  cases hst <;> rfl

theorem Settles.registry {s' : Session} (h : Settles s n k s') : s'.registry = s.registry := by
  cases h <;> simp

/-- With an action the registry gets the entry that the action stores, and nothing else. -/
theorem registry_act (s : Session) (a : Action) :
    (s.act a).registry = (s.entered? a).elim s.registry fun e => s.registry.register e := by
  cases he : s.entered? a with
  | some e =>
    rcases entered?_eq_some_iff.1 he with rfl | h
    · rfl
    · obtain ⟨n, k, rest, -, -, -, hact⟩ := act_of_installs h
      rw [hact, registry_store]
      rfl
  | none =>
    have hnot : ∀ e, ¬ Enters e s a := by
      intro e hent
      rw [entered?_eq_some_iff.2 hent] at he
      cases he
    have ha := acts_act s a
    generalize s.act a = s' at ha
    cases ha with
    | builds => simp
    | registers e => exact absurd (Or.inl rfl) (hnot e)
    | binds => exact registry_moved _ _ _ _
    | stores call live goal stage => exact absurd (Or.inr ⟨call, live, goal, stage⟩) (hnot _)
    | settles _ _ _ hs => rw [hs.registry, registry_moved]; rfl
    | _ => rfl

theorem registry_of_enters (h : Enters e s a) : (s.act a).registry = s.registry.register e := by
  rw [registry_act, entered?_eq_some_iff.2 h]
  rfl

/-- For any other tag the registry says what it said. -/
theorem find?_of_not_entersFor (h : ¬ EntersFor tag s a) :
    (s.act a).registry.find? tag = s.registry.find? tag := by
  rw [registry_act]
  cases he : s.entered? a with
  | none => rfl
  | some e =>
    have hent := entered?_eq_some_iff.1 he
    exact Registry.find?_register_of_ne (fun htag => h ⟨e, hent, htag⟩) _

theorem registry_opened (hopen : opened number stem debug = .ok s) : s.registry = [] := by
  unfold opened at hopen
  split at hopen
  · cases hopen; rfl
  · cases hopen

/-- The stored entry is the one that was stored last. -/
theorem find?_run_iff (hempty : s.registry = []) (as : List Action) :
    (s.run as).registry.find? tag = some e ↔
      ∃ before a, Last (EntersFor tag) s as before a ∧ Enters e (s.run before) a := by
  induction as using List.reverseRecOn with
  | nil => simp [hempty]
  | append_singleton as a ih =>
    rw [run_concat]
    by_cases h : EntersFor tag (s.run as) a
    · obtain ⟨d, hd, rfl⟩ := id h
      rw [registry_of_enters hd, Registry.find?_register_self]
      constructor
      · intro hde
        cases hde
        exact ⟨as, a, last_concat.2 (Or.inl ⟨h, rfl, rfl⟩), hd⟩
      · rintro ⟨before, b, hlast, hent⟩
        rcases last_concat.1 hlast with ⟨-, rfl, rfl⟩ | ⟨hnot, -⟩
        · rw [hent.unique hd]
        · exact absurd h hnot
    · rw [find?_of_not_entersFor h, ih]
      simp only [last_concat, h, false_and, not_false_eq_true, true_and, false_or]

/-! Snapshots -/

/-- The entries that are stored while a run goes on, in their order. -/
def entries : Session → List Action → List Entry
  | _, [] => []
  | s, a :: as => (s.entered? a).toList ++ entries (s.act a) as

/-- The memory that a run leaves. -/
def memory (s : Session) (as : List Action) : Memory := (s.entries as).foldl Memory.enter .opened

theorem entries_append (s : Session) (as bs : List Action) :
    s.entries (as ++ bs) = s.entries as ++ (s.run as).entries bs := by
  induction as generalizing s with
  | nil => rfl
  | cons a as ih => simp only [List.cons_append, entries, ih, run_cons, List.append_assoc]

/-- Stored one after another, the entries make the registry. -/
theorem registry_run (s : Session) (as : List Action) :
    (s.run as).registry = (s.entries as).foldl (fun r e => r.register e) s.registry := by
  induction as generalizing s with
  | nil => rfl
  | cons a as ih =>
    rw [run_cons, ih, registry_act, entries, List.foldl_append]
    cases s.entered? a <;> rfl

/-- A snapshot decodes as the registry did when it was taken. -/
theorem decode?_memory (hempty : s.registry = []) (before after : List Action) (text : Text) :
    (s.memory (before ++ after)).decode? (s.memory before).current text =
      some (Decode.payload (s.run before).registry text) := by
  have hcurrent : (s.memory before).at? (s.memory before).current =
      some (s.run before).registry := by
    rw [registry_run, hempty]
    exact Memory.current_foldl rfl _
  have hkept : (s.memory (before ++ after)).at? (s.memory before).current =
      some (s.run before).registry := by
    rw [memory.eq_def s (before ++ after), entries_append, List.foldl_append]
    exact Memory.at?_foldl hcurrent _
  rw [Memory.decode?, hkept]
  rfl

/-! Registration commands -/

/-- A registration tells its tag and its encoder. -/
theorem registration_inj {tag' encoder' : Text}
    (h : registration tag encoder = registration tag' encoder') :
    tag' = tag ∧ encoder' = encoder := by
  have hread : ∀ tag encoder : Text, Literal.readQuoted? (Literal.quote tag ++
      (", ".toList ++ (encoder ++ [')']))) = some (tag, ", ".toList ++ (encoder ++ [')'])) :=
    fun tag encoder => Literal.readQuoted?_quote (by simp) tag
  unfold registration at h
  simp only [List.append_assoc] at h
  have hboth := hread tag' encoder'
  rw [← List.append_cancel_left h, hread tag encoder] at hboth
  obtain ⟨htag, hrest⟩ := Prod.mk.inj (Option.some.inj hboth)
  exact ⟨htag.symm, (List.append_cancel_right (List.append_cancel_left hrest)).symm⟩

theorem breaksLine_registration (tag encoder : Text) :
    (registration tag encoder).breaksLine = encoder.breaksLine := by
  have hhook : Text.breaksLine "__hopi_register__(".toList = false := by decide
  have hcomma : Text.breaksLine ", ".toList = false := by decide
  have hclose : Text.breaksLine [')'] = false := by decide
  unfold registration
  simp only [Text.breaksLine_append, hhook, hcomma, hclose, Literal.breaksLine_quote,
    Bool.false_or, Bool.or_false]

/-- A call that installs entries queues a registration for this tag. -/
def QueuesRegistration (tag : Text) (c : Command) (s : Session) (a : Action) : Prop :=
  ∃ n k entries encoder, s.calls n = some k ∧ k.goal = .installed entries ∧
    Queues (.call n) c s a ∧ c.text = registration tag encoder

/-- The last registration for this tag that was queued. -/
def LastRegistration (tag : Text) (c : Command) (s : Session) (as : List Action) : Prop :=
  ∃ before a, Last (fun t b => ∃ d, QueuesRegistration tag d t b) s as before a ∧
    QueuesRegistration tag c (s.run before) a

theorem QueuesRegistration.unique {c' : Command} (h : QueuesRegistration tag c s a)
    (h' : QueuesRegistration tag c' s a) : c' = c := by
  obtain ⟨_, _, _, _, _, _, hq, -⟩ := h
  obtain ⟨_, _, _, _, _, _, hq', -⟩ := h'
  exact List.singleton_inj.1 (List.append_cancel_left (hq'.2.symm.trans hq.2))

/-- Only the turn at which an entry is stored queues its registration. -/
theorem installs_of_queuesRegistration (hrec : ∀ {n k}, s.calls n = some k → k.Recorded)
    (h : QueuesRegistration tag c s a) :
    ∃ e encoder, Installs e s a ∧ e.tag = tag ∧ e.encoder = some encoder ∧ c.tag = .exec ∧
      c.text = registration tag encoder := by
  obtain ⟨n, k, entries, encoder, call, goal, hq, htext⟩ := h
  obtain ⟨uses, hc⟩ := hq.enqueues
  have hsending := hc.sending
  rw [hq.1, htext] at hsending
  generalize hkind : c.tag = kind at hsending ⊢
  generalize hsource : registration tag encoder = source at hsending
  cases hsending with
  | goes errand _ _ command =>
    -- a call that installs entries has no command of its own
    rw [errand?_call, call] at errand
    cases errand
    rw [((hrec call).installs goal).2] at command
    cases command
  | @stores _ k' e rest encoder' call' goal' stage encodes =>
    obtain ⟨htag, hencoder⟩ := registration_inj hsource
    have live := (hrec call').live_of_held stage (by rw [goal']; exact nofun)
    refine ⟨e, encoder', ⟨call', live, goal', stage⟩, htag, encodes, rfl, ?_⟩
    rw [htext, hencoder]

theorem entersFor_of_queuesRegistration (hrec : ∀ {n k}, s.calls n = some k → k.Recorded)
    (h : QueuesRegistration tag c s a) : EntersFor tag s a := by
  obtain ⟨e, -, hinstalls, htag, -⟩ := installs_of_queuesRegistration hrec h
  exact ⟨e, Or.inr hinstalls, htag⟩

/-- An entry that is installed with an encoder is registered in the same step. -/
theorem queuesRegistration_of_installs (h : Installs e s a) (encodes : e.encoder = some encoder)
    (hline : encoder.breaksLine = false) (isOpen : s.channel.isClosed = false) :
    ∃ c, QueuesRegistration e.tag c s a := by
  obtain ⟨n, k, rest, rfl, call, goal, hact⟩ := act_of_installs h
  have hclosed : s.channel.pending.closed = none := by
    simpa [Channel.isClosed, Pending.isClosed] using isOpen
  have hsend := Channel.send_of_open (c := s.channel)
    ((breaksLine_registration e.tag encoder).trans hline) hclosed .exec
  refine ⟨⟨s.channel.commandsSent, .exec, registration e.tag encoder⟩, n, k, _, encoder, call, goal,
    queues_advance ?_ ?_, rfl⟩
  all_goals
    rw [hact]
    have hst := stores_store n k e rest s
    generalize s.store n k e rest = s' at hst
    cases hst with
    | silently plain => rw [plain] at encodes; cases encodes
    | sending encodes' =>
      cases encodes.symm.trans encodes'
      rw [hsend]
      rfl

/-! The stored entry and the last registration -/

theorem Last.lastRegistration (hopen : opened number stem debug = .ok s)
    (h : Last (EntersFor tag) s as before a) (hq : QueuesRegistration tag c (s.run before) a) :
    LastRegistration tag c s as := by
  obtain ⟨after, rfl, never⟩ := h.never (P := fun t b => ∃ d, QueuesRegistration tag d t b)
    fun as b ⟨d, hd⟩ => entersFor_of_queuesRegistration (recorded_opened hopen as) hd
  exact ⟨before, a, ⟨after, ⟨c, hq⟩, never⟩, hq⟩

theorem LastRegistration.unique {c' : Command} (h : LastRegistration tag c s as)
    (h' : LastRegistration tag c' s as) : c' = c := by
  obtain ⟨before, a, hlast, hq⟩ := h
  obtain ⟨before', a', hlast', hq'⟩ := h'
  obtain ⟨rfl, rfl⟩ := hlast.unique hlast'
  exact hq.unique hq'

/-- Registering on this side only leaves the last registration command as it was. -/
theorem lastRegistration_iff_of_registerLocal (hopen : opened number stem debug = .ok s)
    (h : Last (EntersFor tag) s as before (.registerLocal e)) (c : Command) :
    LastRegistration tag c s as ↔ LastRegistration tag c s before := by
  obtain ⟨after, rfl, never⟩ := h.never (P := fun t b => ∃ d, QueuesRegistration tag d t b)
    fun as b ⟨d, hd⟩ => entersFor_of_queuesRegistration (recorded_opened hopen as) hd
  have hnone : ¬ ∃ d, QueuesRegistration tag d (s.run before) (.registerLocal e) := by
    rintro ⟨d, hd⟩
    obtain ⟨_, _, hinstalls, -⟩ := installs_of_queuesRegistration (recorded_opened hopen before) hd
    cases hinstalls
  simp only [LastRegistration, last_append_iff (always_cons.2 ⟨hnone, never⟩)]

/-- Whatever calls there are, and however they take turns, the stored entry is the one that was
stored last. If it was installed with an encoder that keeps to its line, while the channel was
open, then the last registration for its tag carries this encoder; a registration on this side
only sends nothing. Every snapshot decodes as the registry did when it was taken. -/
theorem stored_entry_registered (hopen : opened number stem debug = .ok s) (as : List Action)
    (tag : Text) :
    (∀ e, (s.run as).registry.find? tag = some e ↔
      ∃ before a, Last (EntersFor tag) s as before a ∧ Enters e (s.run before) a) ∧
    (∀ before a e encoder, Last (EntersFor tag) s as before a → Installs e (s.run before) a →
      e.encoder = some encoder → encoder.breaksLine = false →
      (s.run before).channel.isClosed = false →
      ∃ c, c.tag = .exec ∧ c.text = registration tag encoder ∧
        ∀ d, LastRegistration tag d s as ↔ d = c) ∧
    (∀ before e, Last (EntersFor tag) s as before (.registerLocal e) →
      ∀ c, LastRegistration tag c s as ↔ LastRegistration tag c s before) ∧
    ∀ before after, as = before ++ after → ∀ text,
      (s.memory as).decode? (s.memory before).current text =
        some (Decode.payload (s.run before).registry text) := by
  have hempty := registry_opened hopen
  refine ⟨fun e => find?_run_iff hempty as, ?_, ?_, ?_⟩
  · intro before a e encoder hlast hinstalls encodes hline isOpen
    obtain ⟨d, hd, rfl⟩ := hlast.holds
    cases hd.unique (Or.inr hinstalls)
    obtain ⟨c, hq⟩ := queuesRegistration_of_installs hinstalls encodes hline isOpen
    obtain ⟨e', encoder', hinstalls', -, encodes', hkind, htext⟩ :=
      installs_of_queuesRegistration (recorded_opened hopen before) hq
    cases Enters.unique (Or.inr hinstalls) (Or.inr hinstalls')
    cases encodes.symm.trans encodes'
    have hc := hlast.lastRegistration hopen hq
    refine ⟨c, hkind, htext, fun d => ⟨hc.unique, ?_⟩⟩
    rintro rfl
    exact hc
  · intro before e hlast c
    exact lastRegistration_iff_of_registerLocal hopen hlast c
  · rintro before after rfl text
    exact decode?_memory hempty before after text

/-- Two calls install entries for one tag, and what the first one installs last is stored last. -/
def interleavedInstalls : List Action :=
  [.begin (.install [⟨['t'], .delegate, some ['f']⟩, ⟨['t'], .constant ['x'], some ['h']⟩]),
    .begin (.install [⟨['t'], .items, some ['g']⟩]), .advance (.call 0), .advance (.call 1),
    .feed [48, 61, 80, 65, 83, 83, 61, 79, 75, 10], .read, .advance (.call 0),
    .advance (.call 0), .advance (.call 1)]

theorem stored_entry_registered_interleaved :
    let e : Entry := ⟨['t'], .constant ['x'], some ['h']⟩
    opened 0 ['v'] false = .ok newSession ∧
    (newSession.run interleavedInstalls).registry.find? ['t'] = some e ∧
    (∃ c, c.text = registration ['t'] ['h'] ∧
      LastRegistration ['t'] c newSession interleavedInstalls) ∧
    ∀ text, (newSession.memory interleavedInstalls).decode?
      (newSession.memory (interleavedInstalls.take 4)).current text = some
        (Decode.payload [⟨['t'], .items, some ['g']⟩, ⟨['t'], .delegate, some ['f']⟩] text) := by
  intro e
  have hentered : (newSession.run (interleavedInstalls.take 7)).entered? (.advance (.call 0)) =
      some e := by decide +kernel
  have hafter : (newSession.run (interleavedInstalls.take 8)).entered? (.advance (.call 1)) =
      none := by decide +kernel
  have henters := entered?_eq_some_iff.1 hentered
  have hinstalls := henters.resolve_left nofun
  have hlast : Last (EntersFor ['t']) newSession interleavedInstalls
      (interleavedInstalls.take 7) (.advance (.call 0)) := by
    refine @Last.intro _ _ (interleavedInstalls.take 7) (.advance (.call 0)) [.advance (.call 1)]
      ⟨e, henters, rfl⟩ (always_cons.2 ⟨?_, always_nil⟩)
    rintro ⟨d, hd, -⟩
    exact absurd (hafter.symm.trans (entered?_eq_some_iff.2 hd)) nofun
  obtain ⟨hstored, hregistered, -, hsnapshot⟩ :=
    stored_entry_registered opened_newSession interleavedInstalls ['t']
  obtain ⟨c, -, htext, hc⟩ := hregistered _ _ e ['h'] hlast hinstalls rfl rfl (by decide +kernel)
  have hregistry : (newSession.run (interleavedInstalls.take 4)).registry =
      [⟨['t'], .items, some ['g']⟩, ⟨['t'], .delegate, some ['f']⟩] := by decide +kernel
  refine ⟨opened_newSession, (hstored e).2 ⟨_, _, hlast, henters⟩, ⟨c, htext, (hc c).2 rfl⟩, ?_⟩
  intro text
  rw [hsnapshot (interleavedInstalls.take 4) (interleavedInstalls.drop 4) rfl, hregistry]

/-- An entry with an encoder that is registered on this side only has no registration. -/
theorem not_registered_of_registerLocal :
    ¬ ∀ (number : Nat) (stem : Text) (debug : Bool) (s : Session) (as : List Action) (tag : Text)
      (before : List Action) (a : Action) (e : Entry) (encoder : Text),
      opened number stem debug = .ok s → Last (EntersFor tag) s as before a →
      Enters e (s.run before) a → e.encoder = some encoder → encoder.breaksLine = false →
      (s.run before).channel.isClosed = false →
      ∃ c, c.text = registration tag encoder ∧ LastRegistration tag c s as := by
  intro h
  let e : Entry := ⟨['t'], .delegate, some ['f']⟩
  have hlast : Last (EntersFor ['t']) newSession [.registerLocal e] [] (.registerLocal e) :=
    @Last.intro _ _ [] (.registerLocal e) [] ⟨e, Or.inl rfl, rfl⟩ always_nil
  obtain ⟨c, -, hc⟩ := h 0 ['v'] false newSession [.registerLocal e] ['t'] [] _ e ['f']
    opened_newSession hlast (Or.inl rfl) rfl rfl rfl
  obtain ⟨before, a, hbefore, -⟩ :=
    (lastRegistration_iff_of_registerLocal opened_newSession hlast c).1 hc
  exact not_last_nil hbefore

end Session

end RemoteInterpreter
