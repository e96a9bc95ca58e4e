import Mathlib.Logic.Relation
import RemoteInterpreter.Proofs.Outcome

/-!
# The recorded state of a handle

Three parties write what is recorded of a handle: whoever builds it, its binding, and every
force of it that ends well. Whatever their order, the recorded state stays or takes one step
forward with each action. That the channel is closed is never recorded.
-/

namespace RemoteInterpreter.Session

namespace State

/-- One step in the life of a handle. -/
inductive Moves : State → State → Prop
  | starts : Moves .created .resolving
  | binds : Moves .resolving .bound
  | evaluates : Moves .bound .evaluated
  | failsEarly : Moves .created .failed
  | fails : Moves .resolving .failed

/-- How far a state is in the life of a handle. -/
def rank : State → Nat
  | .created => 0
  | .resolving => 1
  | .bound | .failed => 2
  | .evaluated | .closed => 3

variable {x y : State}

theorem Moves.rank_lt (h : Moves x y) : x.rank < y.rank := by
  cases h <;> decide

theorem rank_le_of_moves (h : Relation.ReflTransGen Moves x y) : x = y ∨ x.rank < y.rank := by
  induction h with
  | refl => exact Or.inl rfl
  | tail _ hstep ih =>
    rcases ih with rfl | hlt
    · exact Or.inr hstep.rank_lt
    · exact Or.inr (Nat.lt_trans hlt hstep.rank_lt)

/-- There is no way back. -/
theorem eq_of_moves_of_moves (h : Relation.ReflTransGen Moves x y)
    (h' : Relation.ReflTransGen Moves y x) : y = x := by
  rcases rank_le_of_moves h with rfl | hlt
  · rfl
  · rcases rank_le_of_moves h' with heq | hlt'
    · exact heq
    · exact absurd (Nat.lt_trans hlt hlt') (Nat.lt_irrefl _)

theorem eq_failed_of_moves (h : Relation.ReflTransGen Moves .failed y) : y = .failed := by
  rcases Relation.ReflTransGen.cases_head h with rfl | ⟨z, hz, -⟩
  · rfl
  · cases hz

end State

/-! One step of a binding -/

theorem bindings_addBinding (b : Binding) (s : Session) (n : Nat) :
    (s.addBinding b).bindings n = if n = s.built then some b else s.bindings n := by
  by_cases h : n = s.built <;> simp [addBinding, putBinding, put, h]

/-- How the binding of a handle comes to stand as it does after an action. -/
inductive Records (s : Session) (n : Nat) : Action → Binding → Prop
  | keeps {a b} (binding : s.bindings n = some b) : Records s n a b
  | builds {a t running d x c b} (number : n = s.built) (handles : t.handleAt = s.handleAt)
      (compose : Expression.compose s.number d = .ok x) (binds : Binds t x running c b) :
    Records s n a b
  | moves {b c stage} (binding : s.bindings n = some b)
      (moves : Errand.Moves (.binding n) s.resolution? s.channel b.errand c stage) :
    Records s n (.advance (.binding n)) (b.atStage stage)
  | evaluates {m b k c stage text v} (binding : s.bindings n = some b)
      (call : s.calls m = some k) (goal : k.goal = .forced n)
      (moves : Errand.Moves (.call m) s.resolution? s.channel k.errand c stage)
      (passed : stage.result? = some (.ok text)) (decoded : Decode.payload s.registry text = .ok v)
      (result : (s.act (.advance (.call m))).result? m = some (.ok (.value v))) :
    Records s n (.advance (.call m)) { b with state := b.state.marked }

variable {s : Session} {p : Party} {n m : Nat} {a : Action} {as : List Action} {b b' : Binding}
variable {k : Call} {number : Nat} {stem : Text} {debug : Bool}

theorem registry_moved (p : Party) (c : Channel Party) (stage : Stage) (s : Session) :
    (s.moved p c stage).registry = s.registry := by
  cases p <;> rfl

theorem records_of_settles {c : Channel Party} {stage : Stage} {s' : Session}
    (call : s.calls m = some k)
    (moves : Errand.Moves (.call m) s.resolution? s.channel k.errand c stage)
    (hs : Settles (s.moved (.call m) c stage) m (k.atStage stage) s')
    (heq : s.act (.advance (.call m)) = s') (h : s'.bindings n = some b') :
    Records s n (.advance (.call m)) b' := by
  have moved : (s.moved (.call m) c stage).bindings n = s.bindings n := by
    rw [bindings_moved, if_neg nofun]
  cases hs with
  | @evaluates text handle v goal passed decoded =>
    rw [bindings_putCall, bindings_markEvaluated, moved] at h
    split at h
    · next hn =>
      subst hn
      obtain ⟨b, hb, rfl⟩ := Option.map_eq_some_iff.1 h
      rw [registry_moved] at decoded
      refine .evaluates hb call goal moves passed decoded ?_
      rw [heq, result?_putCall]
      rfl
    · exact .keeps h
  | @imports text name x _ _ compose =>
    obtain ⟨c', b, hb, hbind⟩ := bind_eq true x (s.moved (.call m) c stage)
    rw [(extends_moved _ _ _ s).number] at compose
    rw [bindings_putCall, hbind, bindings_addBinding] at h
    split at h
    · next hn =>
      cases h
      exact .builds (hn.trans (built_moved _ _ _ _)) (handleAt_moved _ _ _ _) compose hb
    · exact .keeps (moved ▸ h)
  | _ => exact .keeps (moved ▸ h)

theorem records_act (h : (s.act a).bindings n = some b') : Records s n a b' := by
  have ha := acts_act s a
  generalize heq : s.act a = s' at ha h
  cases ha with
  | @builds running d x compose =>
    obtain ⟨c, b, hb, hbind⟩ := bind_eq running x s
    rw [hbind, bindings_addBinding] at h
    split at h
    · next hn =>
      cases h
      exact .builds hn rfl compose hb
    · exact .keeps h
  | binds errand moves =>
    rw [bindings_moved] at h
    split at h
    · next hp =>
      cases hp
      obtain ⟨b, hb, rfl⟩ := Option.map_eq_some_iff.1 h
      rw [errand?_binding, hb] at errand
      cases errand
      exact .moves hb moves
    · exact .keeps h
  | @stores m k e rest =>
    have hst := stores_store m k e rest s
    generalize s.store m k e rest = t at hst h
    cases hst <;> exact .keeps h
  | settles call _ moves hs => exact records_of_settles call moves hs heq h
  | _ => exact .keeps h

/-! The recorded state -/

/-- A binding that counts as created has not been started, and closed is never recorded. -/
structure Binding.Lives (b : Binding) : Prop where
  created : b.state = .created → b.errand.stage = .fresh
  notClosed : b.state ≠ .closed

theorem Binds.lives {t : Session} {x : Expression} {running : Bool} {c : Channel Party}
    (h : Binds t x running c b) : b.Lives := by
  cases h <;> constructor <;> simp [Binding.errandAt]

theorem Binding.lives_atStage (stage : Stage) (b : Binding) : (b.atStage stage).Lives := by
  unfold Binding.atStage
  split <;> exact ⟨nofun, nofun⟩

theorem Binding.Lives.marked (h : b.Lives) : Binding.Lives { b with state := b.state.marked } := by
  unfold State.marked
  split
  · exact ⟨nofun, nofun⟩
  · exact h

theorem Records.lives (hl : ∀ {b}, s.bindings n = some b → b.Lives) (h : Records s n a b) :
    b.Lives := by
  cases h with
  | keeps binding => exact hl binding
  | builds _ _ _ binds => exact binds.lives
  | moves => exact Binding.lives_atStage _ _
  | evaluates binding => exact (hl binding).marked

theorem bindings_opened (hopen : opened number stem debug = .ok s) (n : Nat) :
    s.bindings n = none := by
  have h := errand?_opened hopen (.binding n)
  rwa [errand?_binding, Option.map_eq_none_iff] at h

theorem lives_run (hopen : opened number stem debug = .ok s) (as : List Action)
    (hb : (s.run as).bindings n = some b) : b.Lives := by
  induction as using List.reverseRecOn generalizing b with
  | nil =>
    rw [run_nil, bindings_opened hopen] at hb
    cases hb
  | append_singleton as a ih =>
    rw [run_concat] at hb
    exact (records_act hb).lives ih

/-- A handle begins its life as it is built. -/
theorem Binds.moves_state {t : Session} {x : Expression} {running : Bool} {c : Channel Party}
    (h : Binds t x running c b) : Relation.ReflTransGen State.Moves .created b.state := by
  cases h with
  | outside => exact .single .failsEarly
  | atOnce => exact .single .starts
  | deferred => exact .refl

/-- An errand that has not been started is held by its first step. -/
theorem Errand.Moves.eq_held {e : Errand} {resolution : Nat → Option (Except Error Text)}
    {c c' : Channel Party} {stage : Stage} (h : Errand.Moves p resolution c e c' stage)
    (fresh : e.stage = .fresh) : stage = .held := by
  cases h with
  | starts => rfl
  | _ => simp_all

/-- A step of a binding leaves the recorded state, or moves it. -/
theorem moves_state_of_moves {e : Handle} {c : Channel Party} {stage : Stage} (hrec : b.Recorded e)
    (hl : b.Lives)
    (moves : Errand.Moves (.binding n) s.resolution? s.channel b.errand c stage) :
    (b.atStage stage).state = b.state ∨ State.Moves b.state (b.atStage stage).state := by
  -- an errand that has a step has no result yet, so the state is an early one
  have hnone : b.resolution? = none := moves.result?_eq_none
  have hbound : b.state.isBound ≠ true := by
    rw [Ne, hrec.bound, hnone]
    simp
  have hfailed : b.state ≠ .failed := by
    rw [Ne, hrec.failed, hnone]
    simp
  cases hstate : b.state with
  | created =>
    cases moves.eq_held (hl.created hstate)
    exact Or.inr .starts
  | resolving =>
    cases hx : stage.result? with
    | none => exact Or.inl (by simp [Binding.atStage, hx])
    | some x =>
      cases x with
      | ok text => simp [Binding.atStage, hx, State.Moves.binds]
      | error err => simp [Binding.atStage, hx, State.Moves.fails]
  | bound => simp [hstate, State.isBound] at hbound
  | evaluated => simp [hstate, State.isBound] at hbound
  | failed => exact absurd hstate hfailed
  | closed => exact absurd hstate hl.notClosed

/-- With an action the recorded state of a handle stays, or takes one step. -/
theorem moves_state_act (hs : s.Sound) (hl : ∀ {n b}, s.bindings n = some b → b.Lives)
    (hb : s.bindings n = some b) (hb' : (s.act a).bindings n = some b') :
    b'.state = b.state ∨ State.Moves b.state b'.state := by
  cases records_act hb' with
  | keeps binding =>
    cases hb.symm.trans binding
    exact Or.inl rfl
  | builds number =>
    rw [number, (hs.bindings _).2 (Nat.le_refl _)] at hb
    cases hb
  | moves binding moves =>
    cases hb.symm.trans binding
    exact moves_state_of_moves (hs.recorded hb) (hl hb) moves
  | evaluates binding =>
    cases hb.symm.trans binding
    show b.state.marked = b.state ∨ State.Moves b.state b.state.marked
    cases b.state with
    | bound => exact Or.inr .evaluates
    | _ => exact Or.inl rfl

/-- A new handle has moved from its creation. -/
theorem moves_state_new (hb : s.bindings n = none) (hb' : (s.act a).bindings n = some b') :
    Relation.ReflTransGen State.Moves .created b'.state := by
  cases records_act hb' with
  | keeps binding => rw [hb] at binding; cases binding
  | builds _ _ _ binds => exact binds.moves_state
  | moves binding => rw [hb] at binding; cases binding
  | evaluates binding => rw [hb] at binding; cases binding

/-- While a run goes on, the recorded state moves forward. -/
theorem moves_state_run (hopen : opened number stem debug = .ok s) {before : List Action}
    (hpre : before <+: as) (hb : (s.run before).bindings n = some b)
    (hb' : (s.run as).bindings n = some b') :
    Relation.ReflTransGen State.Moves b.state b'.state := by
  obtain ⟨after, rfl⟩ := hpre
  induction after using List.reverseRecOn generalizing b' with
  | nil =>
    rw [List.append_nil] at hb'
    cases hb.symm.trans hb'
    exact .refl
  | append_singleton after a ih =>
    have hs := (sound_opened hopen).run (before ++ after)
    obtain ⟨b₁, hb₁⟩ : ∃ b₁, (s.run (before ++ after)).bindings n = some b₁ := by
      rw [run_append] at hs ⊢
      obtain ⟨b₁, hb₁, -⟩ := ((sound_opened hopen).run before).uses_run hb after
      exact ⟨b₁, hb₁⟩
    rw [← List.append_assoc, run_concat] at hb'
    rcases moves_state_act hs (fun h => lives_run hopen _ h) hb₁ hb' with heq | hmove
    · rw [heq]
      exact ih hb₁
    · exact (ih hb₁).tail hmove

/-! Closed -/

/-- A handle reports that it is closed exactly on a closed channel. -/
theorem state?_eq_closed_iff (hopen : opened number stem debug = .ok s)
    (hn : n < (s.run as).built) :
    (s.run as).state? n = some .closed ↔ (s.run as).channel.isClosed = true := by
  obtain ⟨b, hb⟩ := ((sound_opened hopen).run as).binding_of_lt hn
  have hclosed := (lives_run hopen as hb).notClosed
  simp [state?, hb, hclosed]

end RemoteInterpreter.Session
