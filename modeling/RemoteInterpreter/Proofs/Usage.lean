import RemoteInterpreter.Proofs.Assignment
import RemoteInterpreter.Proofs.Lifecycle

/-!
# Usage errors and what was sent before

A usage error is meant to come before anything is sent. So it does, with two exceptions:
somebody else already waits for the answer to the command that a call has just sent, or a
pack has sent the registrations of some entries when it comes to one that breaks its line.
-/

namespace RemoteInterpreter

/-! Module names keep to their line -/

theorem Text.mem_splitAt {mark c : Char} {t : Text} (h : c ∈ t) :
    c = mark ∨ ∃ piece ∈ splitAt mark t, c ∈ piece := by
  fun_induction splitAt mark t with
  | case1 => cases h
  | case2 rest ih =>
    rcases List.mem_cons.1 h with rfl | h
    · exact Or.inl rfl
    · exact (ih h).imp_right fun ⟨piece, hpiece, hc⟩ => ⟨piece, List.mem_cons_of_mem _ hpiece, hc⟩
  | case3 d rest _ hempty => exact absurd hempty (splitAt_ne_nil mark rest)
  | case4 d rest _ piece pieces hsplit ih =>
    rw [hsplit] at ih
    rcases List.mem_cons.1 h with rfl | h
    · exact Or.inr ⟨_, List.mem_cons_self, List.mem_cons_self⟩
    · refine (ih h).imp_right fun ⟨piece', hpiece, hc⟩ => ?_
      rcases List.mem_cons.1 hpiece with rfl | hpiece
      · exact ⟨_, List.mem_cons_self, List.mem_cons_of_mem _ hc⟩
      · exact ⟨piece', List.mem_cons_of_mem _ hpiece, hc⟩

theorem Identifier.breaksLine_of_isModuleName {t : Text} (h : isModuleName t = true) :
    t.breaksLine = false := by
  have not_mem : ∀ {c : Char}, c ≠ '.' → isPart c = false → c ∉ t := by
    intro c hpoint hpart hc
    obtain ⟨piece, hpiece, hc⟩ := (Text.mem_splitAt hc).resolve_left hpoint
    have hname := List.all_eq_true.1 h piece hpiece
    simp only [isName, Bool.and_eq_true] at hname
    rw [isPart_of_mem hname.1 hc] at hpart
    cases hpart
  exact Text.breaksLine_eq_false_iff.2
    ⟨not_mem (by decide) (by decide), not_mem (by decide) (by decide)⟩

/-- A module is an expression. -/
theorem Expression.compose_of_isModuleName {name : Text}
    (h : Identifier.isModuleName name = true) (session : Nat) :
    compose session ⟨[name], []⟩ = .ok ⟨name, []⟩ := by
  simp [compose, collect, Arg.handlesOfItems, distinct, interleave,
    Identifier.breaksLine_of_isModuleName h]

namespace Session

variable {s : Session} {p : Party} {n m : Nat} {a : Action} {as : List Action} {k k' : Call}
variable {r : Request} {e : Error} {number : Nat} {stem : Text} {debug : Bool}

/-- Nothing was queued in the name of the party. -/
def Silent (p : Party) (s : Session) (as : List Action) : Prop :=
  ∀ c, ¬ Happens (Queues p c) s as

/-- A call that has sent its command finds that another call, which asked for this id by itself,
already waits for the answer. -/
inductive Crowded (n : Nat) (s : Session) (as : List Action) : Error → Prop
  | intro {c m} (queues : Happens (Queues (.call n) c) s as) (other : m ≠ n)
      (asks : ∃ r, (r = .receive c.id ∨ r = .receivePayload c.id) ∧ Happens (Begins m r) s as)
      (waits : Happens (fun t a =>
        a = .advance (.call n) ∧ t.channel.pending.live? c.id = some (.call m)) s as) :
    Crowded n s as (.channel (.alreadyAwaited c.id))

/-- After its first entry a pack has one whose registration breaks its line. -/
def BreaksLater (r : Request) : Prop :=
  ∃ entries entry encoder, r = .install entries ∧ entry ∈ entries.tail ∧
    entry.encoder = some encoder ∧ (registration entry.tag encoder).breaksLine = true

theorem Silent.concat (h : Silent p s as) (ha : ∀ c, ¬ Queues p c (s.run as) a) :
    Silent p s (as ++ [a]) := by
  intro c hc
  rcases happens_concat.1 hc with hc | hc
  · exact h c hc
  · exact ha c hc

theorem Crowded.concat (h : Crowded n s as e) (a : Action) : Crowded n s (as ++ [a]) e := by
  obtain ⟨queues, other, ⟨r, hr, asks⟩, waits⟩ := h
  exact .intro (queues.concat a) other ⟨r, hr, asks.concat a⟩ (waits.concat a)

/-! Who sends awaits the answer -/

theorem not_queues_of_stage {en : Errand} (he : (s.act a).errand? p = some en)
    (hs : ∀ id, en.stage ≠ .sent (.ok id)) (c : Command) : ¬ Queues p c s a := by
  intro hq
  obtain ⟨uses, hc⟩ := hq.enqueues
  obtain ⟨en', he', hstage, -⟩ := hc.awaited p hq.1
  cases he.symm.trans he'
  exact hs _ hstage

/-- A call that an action leaves as it is sends nothing with it. -/
theorem not_queues_of_kept (hk : s.calls n = some k) (hk' : (s.act a).calls n = some k)
    (c : Command) : ¬ Queues (.call n) c s a := by
  intro hq
  obtain ⟨uses, hc⟩ := hq.enqueues
  obtain ⟨en, he, hstage, -⟩ := hc.awaited _ hq.1
  have hsent : k.errand.stage = .sent (.ok c.id) := by
    rw [errand?_call, hk'] at he
    cases he
    exact hstage
  have hheld : k.errand.stage = .held := by
    have hsend := hc.sending
    rw [hq.1] at hsend
    generalize c.tag = kind, c.text = source at hsend
    cases hsend with
    | goes errand stage =>
      rw [errand?_call, hk] at errand
      cases errand
      exact stage
    | stores call _ stage =>
      cases hk.symm.trans call
      exact stage
  rw [hheld] at hsent
  cases hsent

theorem silent_of_begun (hs : s.Sound) (hn : n = (s.run as).begun) : Silent (.call n) s as := by
  intro c hc
  exact absurd (lt_begun_of_queues hs hc) (by omega)

theorem breaksLine_of_ticket {kind : Kind} {source : Text} {c : Channel Party}
    (h : (c.send kind source).2 = .error .lineBreak) : source.breaksLine = true := by
  cases hb : source.breaksLine with
  | true => rfl
  | false => exact absurd h (ticket_ne_invalidCommand hb kind c _)

/-! What is known of a call while it runs -/

/-- A call is silent until it has sent, and what a pack has left is the end of its entries. -/
structure Accounted (n : Nat) (r : Request) (k : Call) (s : Session) (as : List Action) : Prop where
  pack : ∀ rest, k.goal = .installed rest → ∃ entries, r = .install entries ∧ rest <:+ entries ∧
    (Silent (.call n) s as ∨ rest ≠ entries)
  plain : (∀ rest, k.goal ≠ .installed rest) → k.errand.command = none → Silent (.call n) s as
  unsent : (∀ rest, k.goal ≠ .installed rest) → (k.errand.stage = .fresh ∨
    k.errand.stage = .held ∨ ∃ err, k.errand.stage = .sent (.error err)) → Silent (.call n) s as
  broken : ∀ rest, k.goal = .installed rest → k.errand.stage = .sent (.error .lineBreak) →
    Silent (.call n) s as ∨ BreaksLater r
  failed : ∀ err, k.errand.stage = .failed err → err.isUsage = true →
    Silent (.call n) s as ∨ Crowded n s as err ∨ (err = .channel .lineBreak ∧ BreaksLater r)

theorem Accounted.concat (h : Accounted n r k s as)
    (quiet : ∀ c, ¬ Queues (.call n) c (s.run as) a) : Accounted n r k s (as ++ [a]) := by
  constructor
  · intro rest goal
    obtain ⟨entries, hr, hsuffix, hsilent⟩ := h.pack rest goal
    exact ⟨entries, hr, hsuffix, hsilent.imp_left fun hs => hs.concat quiet⟩
  · exact fun hg hc => (h.plain hg hc).concat quiet
  · exact fun hg hs => (h.unsent hg hs).concat quiet
  · exact fun rest hg hs => (h.broken rest hg hs).imp_left fun hs => hs.concat quiet
  · exact fun err hs hu => (h.failed err hs hu).imp (fun hs => hs.concat quiet)
      (Or.imp_left fun hc => hc.concat a)

/-- The result of a call does not matter. -/
theorem Accounted.finished (h : Accounted n r k s as) (x : Except Error Answer) :
    Accounted n r (k.finished x) s as :=
  ⟨h.pack, h.plain, h.unsent, h.broken, h.failed⟩

theorem eq_install_of_goal {session : Nat} {entries : List Entry}
    (h : (Call.ofRequest session r).goal = .installed entries) : r = .install entries := by
  have haims := aims_ofRequest session r
  rw [h] at haims
  cases haims with
  | installs isInstall => exact isInstall

/-- A new call has not sent anything. -/
theorem accounted_of_begins (hs : s.Sound) (hn : n = (s.run as).begun) :
    Accounted n r (Call.ofRequest (s.run as).number r) s (as ++ [.begin r]) := by
  have hsilent : Silent (.call n) s (as ++ [.begin r]) := by
    refine (silent_of_begun hs hn).concat fun c hq => ?_
    simpa [sender?, act, begin, putCall] using hq.1
  refine ⟨fun rest goal => ?_, fun _ _ => hsilent, fun _ _ => hsilent, fun _ _ _ => Or.inl hsilent,
    fun _ _ _ => Or.inl hsilent⟩
  exact ⟨rest, eq_install_of_goal goal, List.suffix_refl rest, Or.inl hsilent⟩

/-- A call that is turned away is crowded out, or it only asks for the answer by its id. -/
theorem crowded_of_turnedAway (hopen : opened number stem debug = .ok s)
    (call : (s.run as).calls n = some k) (h : Accounted n r k s as)
    {id : Nat} {j : Party} (stage : k.errand.stage = .sent (.ok id))
    (live : (s.run as).channel.pending.live? id = some j) :
    Silent (.call n) s as ∨
      Crowded n s (as ++ [.advance (.call n)]) (.channel (.alreadyAwaited id)) := by
  have hs := sound_opened hopen
  have errand : (s.run as).errand? (.call n) = some k.errand := by rw [errand?_call, call]; rfl
  obtain ⟨en, hen, hparked⟩ := (hs.run as).parked_of_live live
  have other : j ≠ .call n := by
    rintro rfl
    cases errand.symm.trans hen
    rw [stage] at hparked
    cases hparked
  have hpast : Past (.call n) k.errand s as := past_run hopen as errand
  cases hpast.waiting (Or.inl stage) with
  | @asked n' request party asks begins =>
    cases party
    have hfrom := from_of_begins hs begins call
    refine Or.inl (h.plain ?_ ?_)
    · intro rest hrest
      rcases hfrom.goal with hgoal | ⟨entries, _, hgoal, -⟩
      · rw [hrest] at hgoal
        rcases asks with rfl | rfl <;> cases hgoal
      · rcases asks with rfl | rfl <;> cases hgoal
    · rw [hfrom.command]
      rcases asks with rfl | rfl <;> rfl
  | @queued c isId queues =>
    subst isId
    have hpast' : Past j en s as := past_run hopen as hen
    cases hpast'.waiting (Or.inr hparked) with
    | @queued c' isId' queues' =>
      -- only one command has this id
      have heq : c' = c := ((numbered_opened hopen).run as).eq_of_id (mem_of_queues queues')
        (mem_of_queues queues) isId'
      subst heq
      exact absurd (Owns.eq_of_queues (numbered_opened hopen) (.queued queues') queues) other
    | @asked m request party asks begins =>
      subst party
      refine Or.inr (.intro (queues.concat _) (fun hm => other (by rw [hm])) ?_ (.last ⟨rfl, live⟩))
      exact ⟨request, asks, begins.concat _⟩

/-- A call is accounted for when it parks, and when it has what it waited for. -/
theorem Accounted.passes (h : Accounted n r k s as) {stage : Stage}
    (errand : ((s.run as).act a).errand? (.call n) = some { k.errand with stage := stage })
    (hs : (∃ id, stage = .parked id) ∨ stage = .cleared ∨ ∃ r, stage = .answered r) :
    Accounted n r (k.atStage stage) s (as ++ [a]) := by
  have hc : Accounted n r k s (as ++ [a]) := by
    refine h.concat (not_queues_of_stage errand ?_)
    rcases hs with ⟨id, rfl⟩ | rfl | ⟨x, rfl⟩ <;> simp
  refine ⟨hc.pack, hc.plain, ?_, ?_, ?_⟩ <;>
  · rcases hs with ⟨id, rfl⟩ | rfl | ⟨x, rfl⟩ <;> simp [Call.atStage]

/-- A call is accounted for when it fails, if its usage error is. -/
theorem Accounted.fails (h : Accounted n r k s as) {err : Error}
    (errand : ((s.run as).act a).errand? (.call n) = some { k.errand with stage := .failed err })
    (why : err.isUsage = true → Silent (.call n) s as ∨ Crowded n s (as ++ [a]) err ∨
      (err = .channel .lineBreak ∧ BreaksLater r)) :
    Accounted n r (k.atStage (.failed err)) s (as ++ [a]) := by
  have quiet := not_queues_of_stage errand (by simp)
  have hc := h.concat quiet
  refine ⟨hc.pack, hc.plain, by simp [Call.atStage], by simp [Call.atStage], ?_⟩
  rintro _ ⟨⟩ usage
  exact (why usage).imp_left fun hs => hs.concat quiet

theorem Accounted.moves (hopen : opened number stem debug = .ok s)
    (call : (s.run as).calls n = some k) (h : Accounted n r k s as) {c : Channel Party}
    {stage : Stage}
    (moves : Errand.Moves (.call n) (s.run as).resolution? (s.run as).channel k.errand c stage)
    (errand : ((s.run as).act (.advance (.call n))).errand? (.call n) =
      some { k.errand with stage := stage }) :
    Accounted n r (k.atStage stage) s (as ++ [.advance (.call n)]) := by
  have hrec := recorded_opened hopen as call
  have quiet : (∀ id, stage ≠ .sent (.ok id)) →
      ∀ c, ¬ Queues (.call n) c (s.run as) (.advance (.call n)) := not_queues_of_stage errand
  cases moves with
  | starts hs =>
    have hc := h.concat (quiet (by simp))
    exact ⟨hc.pack, hc.plain, fun hg _ => hc.unsent hg (Or.inl hs), by simp [Call.atStage],
      by simp [Call.atStage]⟩
  | inherits hs joined =>
    refine h.fails errand fun _ => Or.inl (h.unsent ?_ (Or.inr (Or.inl hs)))
    intro rest hg
    rw [(hrec.installs hg).1] at joined
    cases joined
  | clears => exact h.passes errand (Or.inr (Or.inl rfl))
  | @sends kind source hs joined command =>
    have noPack : ∀ rest, k.goal ≠ .installed rest := by
      intro rest hg
      rw [(hrec.installs hg).2] at command
      cases command
    have hplain : k.errand.command ≠ none := by simp [command]
    generalize ((s.run as).channel.send kind source).2 = ticket at quiet ⊢
    refine ⟨fun rest hg => absurd hg (noPack rest), fun _ hc => absurd hc hplain, ?_,
      fun rest hg => absurd hg (noPack rest), by simp [Call.atStage]⟩
    cases ticket with
    | ok id => simp [Call.atStage]
    | error err =>
      exact fun hg _ => (h.unsent hg (Or.inr (Or.inl hs))).concat (quiet (by simp))
  | @refused err hs =>
    refine h.fails errand fun usage => ?_
    have hpast : Past (.call n) k.errand s as :=
      past_run hopen as (by rw [errand?_call, call]; rfl)
    rcases hpast.refused hs with rfl | ⟨reason, rfl, -⟩
    · by_cases hpack : ∃ rest, k.goal = .installed rest
      · obtain ⟨rest, hg⟩ := hpack
        exact (h.broken rest hg hs).imp_right fun hlater => Or.inr ⟨rfl, hlater⟩
      · exact Or.inl (h.unsent (fun rest hg => hpack ⟨rest, hg⟩) (Or.inr (Or.inr ⟨_, hs⟩)))
    · cases usage
  | takes => exact h.passes errand (Or.inr (Or.inr ⟨_, rfl⟩))
  | turnedAway hs claims =>
    refine h.fails errand fun usage => ?_
    rcases claims.refused with rfl | ⟨reason, rfl⟩
    · obtain ⟨j, live⟩ := claims.live_of_awaited
      exact (crowded_of_turnedAway hopen call h hs live).imp_right Or.inl
    · cases usage
  | parks => exact h.passes errand (Or.inl ⟨_, rfl⟩)
  | collects => exact h.passes errand (Or.inr (Or.inr ⟨_, rfl⟩))
  | letDown =>
    refine h.fails errand fun usage => ?_
    cases usage

theorem tail_ne_of_suffix {entries rest : List Entry} {entry : Entry}
    (h : entry :: rest <:+ entries) : rest <:+ entries ∧ rest ≠ entries := by
  obtain ⟨earlier, rfl⟩ := h
  refine ⟨⟨earlier ++ [entry], by simp⟩, fun heq => ?_⟩
  have hlength := congrArg List.length heq
  simp at hlength
  omega

theorem mem_tail_of_suffix {entries rest : List Entry} {entry : Entry}
    (h : entry :: rest <:+ entries) (hne : entry :: rest ≠ entries) : entry ∈ entries.tail := by
  obtain ⟨earlier, rfl⟩ := h
  cases earlier with
  | nil => exact absurd rfl hne
  | cons => simp

/-- A call stays accounted for with every action, once it has begun. -/
theorem Accounted.act (hopen : opened number stem debug = .ok s)
    (hb : Happens (Begins n r) s as)
    (h : ∀ {k}, (s.run as).calls n = some k → Accounted n r k s as)
    (hk : ((s.run as).act a).calls n = some k) : Accounted n r k s (as ++ [a]) := by
  have errand : ((s.run as).act a).errand? (.call n) = some k.errand := by
    rw [errand?_call, hk]
    rfl
  have quiet : (∀ id, k.errand.stage ≠ .sent (.ok id)) →
      ∀ c, ¬ Queues (.call n) c (s.run as) a := not_queues_of_stage errand
  cases proceeds_act hk with
  | keeps call => exact (h call).concat (not_queues_of_kept call hk)
  | begins hn => exact absurd (lt_begun_of_begins hb) (by omega)
  | waits call _ moves => exact (h call).moves hopen call moves errand
  | ends call _ moves => exact ((h call).moves hopen call moves errand).finished _
  | rewinds call _ _ goal =>
    have hc := (h call).concat (quiet (by simp [Call.atStage]))
    exact ⟨hc.pack, hc.plain, fun hg => absurd goal (hg _), by simp [Call.atStage],
      by simp [Call.atStage]⟩
  | completes call _ goal stage =>
    have hc := (h call).concat (quiet (by simp [Call.finished, stage]))
    exact hc.finished _
  | @stores k₀ entry rest call _ goal stage =>
    have hc := (h call).concat (quiet (by simp [stage]))
    obtain ⟨entries, hr, hsuffix, -⟩ := hc.pack _ goal
    obtain ⟨hsuffix', hne⟩ := tail_ne_of_suffix hsuffix
    refine ⟨?_, fun hg => absurd rfl (hg rest), fun hg => absurd rfl (hg rest), ?_, ?_⟩
    · rintro _ ⟨⟩
      exact ⟨entries, hr, hsuffix', Or.inr hne⟩
    · simp [stage]
    · simp [stage]
  | @registers k₀ entry rest encoder call _ goal stage encodes =>
    obtain ⟨entries, hr, hsuffix, hsilent⟩ := (h call).pack _ goal
    obtain ⟨hsuffix', hne⟩ := tail_ne_of_suffix hsuffix
    refine ⟨?_, fun hg => absurd rfl (hg rest), fun hg => absurd rfl (hg rest), ?_, ?_⟩
    · rintro _ ⟨⟩
      exact ⟨entries, hr, hsuffix', Or.inr hne⟩
    · intro rest' _ hticket
      have hbreaks := breaksLine_of_ticket (Stage.sent.inj hticket)
      rcases hsilent with hsilent | hne'
      · exact Or.inl (hsilent.concat (quiet (by simp [hticket])))
      · exact Or.inr
          ⟨entries, entry, encoder, hr, mem_tail_of_suffix hsuffix hne', encodes, hbreaks⟩
    · rintro _ ⟨⟩

/-- Every call is accounted for. -/
theorem accounted_run (hopen : opened number stem debug = .ok s) (hb : Happens (Begins n r) s as)
    (hk : (s.run as).calls n = some k) : Accounted n r k s as := by
  have hs := sound_opened hopen
  induction as using List.reverseRecOn generalizing k with
  | nil => exact absurd hb not_happens_nil
  | append_singleton as a ih =>
    rw [run_concat] at hk
    rcases happens_concat.1 hb with hb | ⟨rfl, rfl⟩
    · exact .act hopen hb (ih hb) hk
    · cases proceeds_act hk with
      | keeps call =>
        rw [(hs.run as).calls _ (Nat.le_refl _)] at call
        cases call
      | begins => exact accounted_of_begins hs rfl

/-! An import is refused before it sends, or not for its use -/

theorem eq_import_of_goal {session : Nat} {name : Text}
    (h : (Call.ofRequest session r).goal = .boundModule name) :
    r = .importModule name ∧ Identifier.isModuleName name = true := by
  have haims := aims_ofRequest session r
  rw [h] at haims
  cases haims with
  | imports isImport named => exact ⟨isImport, named⟩

/-- An import that ends with a usage error has failed before, for the handle is always built. -/
theorem stage_of_import_act {name : Text} {err : UsageError} (call : s.calls n = some k)
    (live : k.result = none) (goal : k.goal = .boundModule name)
    (named : Identifier.isModuleName name = true)
    (hk' : (s.act (.advance (.call n))).calls n = some k')
    (hr : k'.result = some (.error (.usage err))) :
    k'.errand.stage.result? = some (.error (.usage err)) := by
  have ha := acts_act s (.advance (.call n))
  generalize s.act (.advance (.call n)) = t at ha hk'
  have same : s.calls n = some k' → k'.errand.stage.result? = some (.error (.usage err)) := by
    intro hk'
    cases call.symm.trans hk'
    cases live.symm.trans hr
  cases ha with
  | idles => exact same hk'
  | drives => exact same hk'
  | completes call' _ goal' =>
    cases call.symm.trans call'
    cases goal.symm.trans goal'
  | stores call' _ goal' =>
    cases call.symm.trans call'
    cases goal.symm.trans goal'
  | @settles _ k₀ c stage _ call' _ _ hs =>
    cases call.symm.trans call'
    have own : (s.moved (.call n) c stage).calls n = some (k.atStage stage) := by
      rw [calls_moved, if_pos rfl, call]
      rfl
    cases hs with
    | waits =>
      cases own.symm.trans hk'
      cases live.symm.trans hr
    | shows goal' => cases goal.symm.trans goal'
    | fails _ hstage =>
      rw [calls_putCall, put_same] at hk'
      cases hk'
      cases hr
      exact hstage
    | concludes _ _ concludes =>
      rw [show (k.atStage stage).goal = .boundModule name from goal] at concludes
      cases concludes
    | evaluates goal' => cases goal.symm.trans goal'
    | misnamed goal' _ compose =>
      cases goal.symm.trans goal'
      rw [Expression.compose_of_isModuleName named] at compose
      cases compose
    | imports =>
      rw [calls_putCall, put_same] at hk'
      cases hk'
      cases hr
    | goesOn goal' => cases goal.symm.trans goal'

theorem stage_of_import (hopen : opened number stem debug = .ok s) {name : Text}
    {err : UsageError} (hk : (s.run as).calls n = some k) (goal : k.goal = .boundModule name)
    (hr : k.result = some (.error (.usage err))) :
    k.errand.stage.result? = some (.error (.usage err)) := by
  induction as using List.reverseRecOn generalizing k with
  | nil =>
    rw [run_nil, calls_opened hopen] at hk
    cases hk
  | append_singleton as a ih =>
    obtain ⟨r, hb⟩ := begins_of_call hopen _ hk
    have hnamed : Identifier.isModuleName name = true := by
      rcases (from_of_begins (sound_opened hopen) hb hk).goal with hgoal | ⟨_, _, -, hgoal⟩
      · exact (eq_import_of_goal (hgoal.symm.trans goal)).2
      · cases goal.symm.trans hgoal
    rw [run_concat] at hk
    cases proceeds_act hk with
    | keeps call => exact ih call goal hr
    | begins =>
      obtain ⟨rfl, hname⟩ := eq_import_of_goal goal
      simp [Call.ofRequest, hname, Call.started] at hr
    | waits call live => cases live.symm.trans hr
    | ends call live => exact stage_of_import_act call live goal hnamed hk hr
    | rewinds _ live => cases live.symm.trans hr
    | completes => cases hr
    | stores _ live => cases live.symm.trans hr
    | registers _ live => cases live.symm.trans hr

/-! The whole picture -/

/-- A call that ends with a usage error has not queued anything, however other calls get in between,
unless another call already waits for the id of the command that it has sent, or it is a pack
whose entries were partly sent before one of them breaks its line. -/
theorem usage_error_cases (hopen : opened number stem debug = .ok s)
    (hb : Happens (Begins n r) s as) (hr : (s.run as).result? n = some (.error e))
    (usage : e.isUsage = true) :
    Silent (.call n) s as ∨ Crowded n s as e ∨ (e = .channel .lineBreak ∧ BreaksLater r) := by
  obtain ⟨k, hk, hresult⟩ := Option.bind_eq_some_iff.1 hr
  have hacc := accounted_run hopen hb hk
  have hgives := (recorded_opened hopen as hk).ended hresult
  generalize hgoal : k.goal = goal, hstage : k.errand.stage = stage at hgives
  cases hgives with
  | fails _ failed =>
    cases stage with
    | failed err =>
      cases failed
      exact hacc.failed _ hstage usage
    | answered answer =>
      obtain ⟨-, rfl⟩ := Stage.fail_of_result? failed
      cases usage
    | _ => cases failed
  | concludes _ _ concludes => cases concludes <;> cases usage
  | misnamed passed =>
    have hfailed := stage_of_import hopen hk hgoal hresult
    rw [hstage, passed] at hfailed
    cases hfailed

/-- Somebody asks for an answer before its command is sent, and the call that sends the command is
told that it is used wrongly. -/
def crowdedActions : List Action :=
  [.begin (.receive 0), .advance (.call 0), .begin (.exec ['a', '=', '1']), .advance (.call 1),
    .advance (.call 1)]

def crowdedCommand : Command := ⟨0, .exec, ['a', '=', '1']⟩

theorem queues_crowded :
    Queues (.call 1) crowdedCommand (newSession.run (crowdedActions.take 3)) (.advance (.call 1)) :=
  ⟨by decide +kernel, by decide +kernel⟩

theorem begins_crowded : Happens (Begins 1 (.exec ['a', '=', '1'])) newSession crowdedActions :=
  ⟨crowdedActions.take 2, _, _, rfl, rfl, by decide +kernel⟩

theorem result_crowded : (newSession.run crowdedActions).result? 1 =
    some (.error (.channel (.alreadyAwaited 0))) := rfl

theorem usage_error_cases_crowded :
    opened 0 ['v'] false = .ok newSession ∧
    Happens (Begins 1 (.exec ['a', '=', '1'])) newSession crowdedActions ∧
    (newSession.run crowdedActions).result? 1 = some (.error (.channel (.alreadyAwaited 0))) ∧
    Error.isUsage (.channel (.alreadyAwaited 0)) = true ∧
    Crowded 1 newSession crowdedActions (.channel (.alreadyAwaited 0)) := by
  refine ⟨opened_newSession, begins_crowded, result_crowded, rfl, ?_⟩
  rcases usage_error_cases opened_newSession begins_crowded result_crowded rfl with
    hsilent | hcrowded | ⟨herror, -⟩
  · exact absurd ⟨crowdedActions.take 3, _, _, rfl, queues_crowded⟩ (hsilent crowdedCommand)
  · exact hcrowded
  · cases herror

/-- A command is queued by a call that ends with a usage error. -/
theorem sends_before_usage_error :
    ¬ ∀ (number : Nat) (stem : Text) (debug : Bool) (s : Session) (as : List Action) (n : Nat)
      (r : Request) (e : Error), opened number stem debug = .ok s → Happens (Begins n r) s as →
      (s.run as).result? n = some (.error e) → e.isUsage = true → Silent (.call n) s as := by
  intro h
  have hsilent := h 0 ['v'] false newSession crowdedActions 1 (.exec ['a', '=', '1'])
    (.channel (.alreadyAwaited 0)) opened_newSession begins_crowded result_crowded rfl
  exact hsilent crowdedCommand ⟨crowdedActions.take 3, _, _, rfl, queues_crowded⟩

end Session

end RemoteInterpreter
