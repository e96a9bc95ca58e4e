import RemoteInterpreter.Proofs.Stream

/-!
# The reader

Whatever is fed is in one of three places: the reader has cut it off the stream, or it is
still to be cut off, or it was lost when the reader stopped. So what the reader has cut off
are always the first pieces of what was fed, wherever the stream was divided into chunks
and whatever happened in between.
-/

namespace RemoteInterpreter

open Inbox (lineFeed)

namespace Inbox

variable {i j : Inbox}

/-- What the reader has not cut off, though it may have looked at a part of it. -/
def unread (i : Inbox) : Octets := i.unfinished ++ (i.fetched ++ i.incoming)

theorem unread_fetch (h : i.fetched = []) : i.fetch.unread = i.unread := by
  simp [unread, fetch, h]

/-- The reader looks at its buffer, which it fills when it is empty. -/
structure Fills (i j : Inbox) : Prop where
  unfinished : j.unfinished = i.unfinished
  unread : j.unread = i.unread
  ended : j.ended = i.ended
  fault : j.fault = i.fault
  stopped : j.stopped = i.stopped

theorem Fills.refl (i : Inbox) : i.Fills i := ⟨rfl, rfl, rfl, rfl, rfl⟩

theorem fills_fetch (h : i.fetched = []) : i.Fills i.fetch :=
  ⟨rfl, unread_fetch h, rfl, rfl, rfl⟩

/-- Everything that the reader can do. -/
inductive Reads (i : Inbox) : Move → Prop
  | rests (idle : i.stopped = true ∨ (i.fetched = [] ∧ i.incoming = [] ∧ i.ended = false)) :
    Reads i .rested
  | breaks {fault} (live : i.stopped = false) (empty : i.fetched = [])
      (broken : i.fault = some fault) : Reads i
      (.finished (.readFailed fault) { i with unfinished := [], incoming := [], stopped := true })
  | cuts {j : Inbox} {before after} (live : i.stopped = false) (fills : i.Fills j)
      (fetched : j.fetched = before ++ lineFeed :: after) (free : lineFeed ∉ before) :
    Reads i (.piece (j.unfinished ++ before) { j with unfinished := [], fetched := after })
  | gathers {j : Inbox} (live : i.stopped = false) (fills : i.Fills j)
      (free : lineFeed ∉ j.fetched) :
    Reads i (.moved { j with unfinished := j.unfinished ++ j.fetched, fetched := [] })
  | ends (live : i.stopped = false) (ended : i.ended = true) (unread : i.unread = []) :
    Reads i (.finished .outputClosed { i with stopped := true })
  | lasts (live : i.stopped = false) (empty : i.fetched = [] ∧ i.incoming = [])
      (ended : i.ended = true) (unfinished : i.unfinished ≠ []) :
    Reads i (.piece i.unfinished { i with unfinished := [] })

theorem reads_look (live : i.stopped = false) (h : i.Fills j) : i.Reads j.look := by
  unfold look
  split
  · next before after hcut =>
    obtain ⟨hfetched, hfree⟩ := Text.cut?_eq_some_iff.1 hcut
    exact .cuts live h hfetched hfree
  · next hcut => exact .gathers live h (Text.cut?_eq_none_iff.1 hcut)

theorem reads_read (i : Inbox) : i.Reads i.read := by
  unfold read
  split
  · next hstopped => exact .rests (Or.inl hstopped)
  · next live =>
    have live : i.stopped = false := by simpa using live
    split
    · exact reads_look live (.refl i)
    · next hfetched =>
      have hfetched : i.fetched = [] := by simpa using hfetched
      split
      · next hfault => exact .breaks live hfetched hfault
      · split
        · exact reads_look live (fills_fetch hfetched)
        · next hincoming =>
          have hincoming : i.incoming = [] := by simpa using hincoming
          split
          · next hended => exact .rests (Or.inr ⟨hfetched, hincoming, by simpa using hended⟩)
          · next hended =>
            have hended : i.ended = true := by simpa using hended
            split
            · next hunfinished =>
              exact .ends live hended (by simp_all [unread])
            · next hunfinished =>
              exact .lasts live ⟨hfetched, hincoming⟩ hended (by simpa using hunfinished)

/-- What the reader leaves. -/
def Move.left (i : Inbox) : Move → Inbox
  | .rested => i
  | .moved i' => i'
  | .piece _ i' => i'
  | .finished _ i' => i'

/-- The octets before the line feed that the buffer holds belong to the piece. -/
theorem unread_cut {before after : Octets} (h : i.Fills j)
    (fetched : j.fetched = before ++ lineFeed :: after) :
    i.unread = (j.unfinished ++ before) ++ lineFeed ::
      ({ j with unfinished := [], fetched := after } : Inbox).unread := by
  rw [← h.unread]
  simp [unread, fetched]

theorem unread_gather (h : i.Fills j) :
    ({ j with unfinished := j.unfinished ++ j.fetched, fetched := [] } : Inbox).unread =
      i.unread := by
  rw [← h.unread]
  simp [unread]

theorem unread_feed (octets : Octets) (i : Inbox) :
    (i.feed octets).unread = i.unread ++ octets := by
  simp [unread, feed]

end Inbox

namespace Session

variable {s : Session} {a : Action} {as bs : List Action} {octets piece : Octets}

/-- Only the reader and the far end touch what has come in. -/
theorem inbox_act (s : Session) (a : Action) :
    (s.act a).channel.inbox =
      match a with
      | .feed octets => s.channel.inbox.feed octets
      | .finish ending => s.channel.inbox.finish ending
      | .read => s.channel.inbox.read.left s.channel.inbox
      | _ => s.channel.inbox := by
  cases a with
  | feed => rfl
  | finish => rfl
  | read =>
    show (s.channel.read?.getD s.channel).inbox = _
    unfold Channel.read?
    cases s.channel.inbox.read with
    | rested => rfl
    | moved => rfl
    | piece octets i =>
      show (Channel.deliver octets _).inbox = i
      unfold Channel.deliver
      split <;> rfl
    | finished => rfl
  | _ =>
    rcases streams_act s _ with hd | hp
    · generalize (s.act _).channel = c at hd
      cases hd <;> rfl
    · exact hp.inbox

/-! What the interpreter writes -/

/-- What the interpreter has put out in a run. -/
def fed (as : List Action) : Octets :=
  as.flatMap fun
    | .feed octets => octets
    | _ => []

@[simp] theorem fed_append (as bs : List Action) : fed (as ++ bs) = fed as ++ fed bs :=
  List.flatMap_append

/-- Nothing comes after the end of the stream. -/
def EndsOnce (as : List Action) : Prop :=
  ∀ before after, as = before ++ .finish .closed :: after → fed after = []

theorem endsOnce_of_not_mem (h : .finish .closed ∉ as) : EndsOnce as := by
  rintro before after rfl
  simp at h

theorem endsOnce_of_silent (before : .finish .closed ∉ as) (after : fed bs = []) :
    EndsOnce (as ++ .finish .closed :: bs) := by
  intro xs ys h
  rcases List.append_eq_append_iff.1 h with ⟨rest, -, hrest⟩ | ⟨rest, rfl, hrest⟩
  · cases rest with
    | nil =>
      obtain ⟨-, rfl⟩ := List.cons.inj hrest
      exact after
    | cons c rest =>
      have hbs : bs = rest ++ .finish .closed :: ys := (List.cons.inj hrest).2
      rw [hbs, fed_append, List.append_eq_nil_iff] at after
      exact after.2
  · cases rest with
    | nil =>
      obtain ⟨-, rfl⟩ := List.cons.inj hrest
      exact after
    | cons c rest =>
      obtain ⟨rfl, -⟩ := List.cons.inj hrest
      simp at before

theorem EndsOnce.of_append (h : EndsOnce (as ++ bs)) : EndsOnce as := by
  rintro before after rfl
  have hfed := h before (after ++ bs) (by simp)
  rw [fed_append, List.append_eq_nil_iff] at hfed
  exact hfed.1

theorem EndsOnce.silent (h : EndsOnce (as ++ [.feed octets]))
    (he : Action.finish .closed ∈ as) : octets = [] := by
  obtain ⟨before, after, rfl⟩ := List.append_of_mem he
  have hfed := h before (after ++ [.feed octets]) (by simp)
  simpa [fed] using (List.append_eq_nil_iff.1 ((fed_append _ _).symm.trans hfed)).2

/-- The reader has cut these octets off the stream, line feeds included. The rest of what was fed is
on its way, or the reader has taken it as the last piece of the stream, or it was lost when the
stream broke. -/
structure CutOff (octets : Octets) (as : List Action) (i : Inbox) : Prop where
  ended : i.ended = true ↔ .finish .closed ∈ as
  fault : ∀ {fault}, i.fault = some fault → .finish (.broken fault) ∈ as
  rest : (fed as = octets ++ i.unread ∧ lineFeed ∉ i.unfinished ∧
      (i.stopped = true → .finish .closed ∈ as ∧ i.unread = [])) ∨
    (.finish .closed ∈ as ∧ i.unread = [] ∧ fed as ++ [lineFeed] = octets) ∨
    (i.stopped = true ∧ (∃ fault, .finish (.broken fault) ∈ as) ∧
      ∃ unfinished lost, fed as = octets ++ (unfinished ++ lost) ∧ lineFeed ∉ unfinished)

theorem cutOff_empty : CutOff [] [] Inbox.empty :=
  ⟨by simp [Inbox.empty], nofun, Or.inl ⟨rfl, by simp [Inbox.empty], nofun⟩⟩

/-- A reader that has not stopped has lost nothing. -/
theorem CutOff.of_live {i : Inbox} (h : CutOff octets as i) (live : i.stopped = false) :
    (fed as = octets ++ i.unread ∧ lineFeed ∉ i.unfinished) ∨
      (.finish .closed ∈ as ∧ i.unread = [] ∧ fed as ++ [lineFeed] = octets) := by
  rcases h.rest with ⟨hrest, hfree, -⟩ | hlast | ⟨hstopped, -⟩
  · exact Or.inl ⟨hrest, hfree⟩
  · exact Or.inr hlast
  · rw [live] at hstopped
    cases hstopped

/-- The reader itself neither ends nor breaks the stream. -/
theorem CutOff.of_read {i i' : Inbox} {octets' : Octets} (h : CutOff octets as i)
    (ended : i'.ended = i.ended) (fault : i'.fault = i.fault)
    (rest : (fed as = octets' ++ i'.unread ∧ lineFeed ∉ i'.unfinished ∧
        (i'.stopped = true → .finish .closed ∈ as ∧ i'.unread = [])) ∨
      (.finish .closed ∈ as ∧ i'.unread = [] ∧ fed as ++ [lineFeed] = octets') ∨
      (i'.stopped = true ∧ (∃ fault, .finish (.broken fault) ∈ as) ∧
        ∃ unfinished lost, fed as = octets' ++ (unfinished ++ lost) ∧ lineFeed ∉ unfinished)) :
    CutOff octets' (as ++ [.read]) i' := by
  refine ⟨?_, ?_, ?_⟩
  · simp [ended, h.ended]
  · intro f hf
    exact List.mem_append_left _ (h.fault (fault ▸ hf))
  · simpa [fed] using rest

/-- A piece that the reader cuts off is the next one of the stream. -/
theorem CutOff.next {i i' : Inbox} (h : CutOff octets as i) (hread : i.read = .piece piece i') :
    lineFeed ∉ piece ∧ CutOff (octets ++ (piece ++ [lineFeed])) (as ++ [.read]) i' ∧
      (fed as = octets ++ (piece ++ lineFeed :: i'.unread) ∨
        (.finish .closed ∈ as ∧ piece ≠ [] ∧ fed as = octets ++ piece)) := by
  have hr := i.reads_read
  rw [hread] at hr
  cases hr with
  | @cuts j before after live fills fetched free =>
    have hunread := Inbox.unread_cut fills fetched
    have hlive : j.stopped ≠ true := by simp [fills.stopped, live]
    rcases h.of_live live with ⟨hrest, hfree⟩ | ⟨-, hnil, -⟩
    · rw [hunread] at hrest
      have hpiece : lineFeed ∉ j.unfinished ++ before := by simp [fills.unfinished, hfree, free]
      refine ⟨hpiece, h.of_read fills.ended fills.fault ?_, Or.inl hrest⟩
      exact Or.inl ⟨by rw [hrest]; simp, by simp, fun hstopped => absurd hstopped hlive⟩
    · rw [hunread] at hnil
      simp at hnil
  | lasts live empty ended unfinished =>
    have hunread : i.unread = i.unfinished := by simp [Inbox.unread, empty]
    have he := h.ended.1 ended
    rcases h.of_live live with ⟨hrest, hfree⟩ | ⟨-, hnil, -⟩
    · rw [hunread] at hrest
      refine ⟨hfree, h.of_read rfl rfl ?_, Or.inr ⟨he, unfinished, hrest⟩⟩
      exact Or.inr (Or.inl ⟨he, by simp [Inbox.unread, empty], by rw [hrest, List.append_assoc]⟩)
    · rw [hunread] at hnil
      exact absurd hnil unfinished

/-- A reader that cuts nothing off leaves the stream as it is, or stops. -/
theorem CutOff.read_quiet {i : Inbox} (h : CutOff octets as i)
    (quiet : ∀ piece i', i.read ≠ .piece piece i') :
    CutOff octets (as ++ [.read]) (i.read.left i) := by
  have hr := i.reads_read
  generalize i.read = m at hr quiet
  cases hr with
  | cuts => exact absurd rfl (quiet _ _)
  | lasts => exact absurd rfl (quiet _ _)
  | rests => exact h.of_read rfl rfl h.rest
  | breaks live empty broken =>
    refine h.of_read rfl rfl ?_
    rcases h.of_live live with ⟨hrest, hfree⟩ | ⟨he, hnil, hrest⟩
    · exact Or.inr (Or.inr ⟨rfl, ⟨_, h.fault broken⟩, i.unfinished, _, hrest, hfree⟩)
    · refine Or.inr (Or.inl ⟨he, ?_, hrest⟩)
      simp [Inbox.Move.left, Inbox.unread, empty]
  | ends live ended hunread =>
    refine h.of_read rfl rfl ?_
    rcases h.of_live live with ⟨hrest, hfree⟩ | hlast
    · exact Or.inl ⟨hrest, hfree, fun _ => ⟨h.ended.1 ended, hunread⟩⟩
    · exact Or.inr (Or.inl hlast)
  | @gathers j live fills free =>
    have hunread := Inbox.unread_gather fills
    have hlive : j.stopped ≠ true := by simp [fills.stopped, live]
    refine h.of_read fills.ended fills.fault ?_
    rcases h.of_live live with ⟨hrest, hfree⟩ | ⟨he, hnil, hrest⟩
    · exact Or.inl ⟨by rw [hrest, ← hunread]; rfl,
        by simp [Inbox.Move.left, fills.unfinished, hfree, free],
        fun hstopped => absurd hstopped hlive⟩
    · exact Or.inr (Or.inl ⟨he, hunread.trans hnil, hrest⟩)

theorem CutOff.feed {i : Inbox} {more : Octets} (h : CutOff octets as i)
    (hend : EndsOnce (as ++ [.feed more])) :
    CutOff octets (as ++ [.feed more]) (i.feed more) := by
  have hfed : fed (as ++ [.feed more]) = fed as ++ more := by simp [fed]
  refine ⟨by simp [h.ended, Inbox.feed], fun hf => List.mem_append_left _ (h.fault hf), ?_⟩
  rw [hfed, Inbox.unread_feed]
  rcases h.rest with ⟨hrest, hfree, hstopped⟩ | ⟨he, hnil, hrest⟩ |
    ⟨hstopped, ⟨fault, hfault⟩, unfinished, lost, hrest, hfree⟩
  · refine Or.inl ⟨by rw [hrest, List.append_assoc], hfree, fun hs => ?_⟩
    obtain ⟨he, hnil⟩ := hstopped hs
    exact ⟨List.mem_append_left _ he, by rw [hnil, hend.silent he]; rfl⟩
  · cases hend.silent he
    exact Or.inr (Or.inl ⟨List.mem_append_left _ he, by simpa using hnil, by simpa using hrest⟩)
  · exact Or.inr (Or.inr ⟨hstopped, ⟨fault, List.mem_append_left _ hfault⟩, unfinished,
      lost ++ more, by simp [hrest], hfree⟩)

/-- Whatever else happens, no octet goes and no flag changes. -/
theorem CutOff.idle {i : Inbox} (h : CutOff octets as i) (hfed : fed [a] = [])
    (hclosed : a ≠ .finish .closed) : CutOff octets (as ++ [a]) i := by
  have hold : ∀ {b : Action}, b ∈ as → b ∈ as ++ [a] := fun hb => List.mem_append_left _ hb
  refine ⟨?_, fun hf => hold (h.fault hf), ?_⟩
  · simp [h.ended, hclosed.symm]
  · rw [fed_append, hfed, List.append_nil]
    rcases h.rest with ⟨hrest, hfree, hstopped⟩ | ⟨he, hlast⟩ | ⟨hstopped, ⟨fault, hf⟩, hlost⟩
    · exact Or.inl ⟨hrest, hfree, fun hs => ⟨hold (hstopped hs).1, (hstopped hs).2⟩⟩
    · exact Or.inr (Or.inl ⟨hold he, hlast⟩)
    · exact Or.inr (Or.inr ⟨hstopped, ⟨fault, hold hf⟩, hlost⟩)

theorem CutOff.finish {i : Inbox} (h : CutOff octets as i) (ending : Ending) :
    CutOff octets (as ++ [.finish ending]) (i.finish ending) := by
  cases ending with
  | broken fault =>
    have hidle := h.idle (a := .finish (.broken fault)) rfl nofun
    refine ⟨hidle.ended, ?_, hidle.rest⟩
    rintro f hf
    cases hf
    simp
  | closed =>
    have hold : ∀ {b : Action}, b ∈ as → b ∈ as ++ [.finish .closed] :=
      fun hb => List.mem_append_left _ hb
    refine ⟨by simp [Inbox.finish], fun hf => hold (h.fault hf), ?_⟩
    rw [fed_append, show fed [.finish .closed] = [] from rfl, List.append_nil]
    rcases h.rest with ⟨hrest, hfree, hstopped⟩ | ⟨he, hlast⟩ | ⟨hstopped, ⟨fault, hf⟩, hlost⟩
    · exact Or.inl ⟨hrest, hfree, fun hs => ⟨hold (hstopped hs).1, (hstopped hs).2⟩⟩
    · exact Or.inr (Or.inl ⟨hold he, hlast⟩)
    · exact Or.inr (Or.inr ⟨hstopped, ⟨fault, hold hf⟩, hlost⟩)

/-- Any action but a cut leaves what was cut off. -/
theorem CutOff.keep (h : CutOff octets as s.channel.inbox) (hend : EndsOnce (as ++ [a]))
    (quiet : a = .read → ∀ piece i, s.channel.inbox.read ≠ .piece piece i) :
    CutOff octets (as ++ [a]) (s.act a).channel.inbox := by
  rw [inbox_act]
  cases a with
  | read => exact h.read_quiet (quiet rfl)
  | feed more => exact h.feed hend
  | finish ending => exact h.finish ending
  | _ => exact h.idle rfl nofun

end Session

end RemoteInterpreter
