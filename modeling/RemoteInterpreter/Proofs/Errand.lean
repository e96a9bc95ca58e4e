import RemoteInterpreter.Proofs.Table
import RemoteInterpreter.Session.Errand

/-!
# Steps of an errand

Everything that one step of an errand can do, and when an errand has no step. The three
ways in which joined handles can stand are told apart by the handles: all of them are
bound, or one of them has failed, or one of them is still open.
-/

namespace RemoteInterpreter.Session

namespace Joined

variable {rs : List (Option (Except Error Text))} {e : Error}

theorem mem_of_atOnce_failed (h : atOnce rs = .failed e) : some (.error e) ∈ rs := by
  fun_induction atOnce rs with
  | case1 => cases h
  | case2 => cases h; simp
  | case3 _ _ ih => exact List.mem_cons_of_mem _ (ih h)
  | case4 rest e' hr ih => cases h; exact List.mem_cons_of_mem _ (ih hr)
  | case5 => cases h

theorem mem_of_inOrder_failed (h : inOrder rs = .failed e) : some (.error e) ∈ rs := by
  fun_induction inOrder rs with
  | case1 => cases h
  | case2 => cases h; simp
  | case3 _ _ ih => exact List.mem_cons_of_mem _ (ih h)
  | case4 => cases h

theorem mem_of_atOnce_waiting (h : atOnce rs = .waiting) : none ∈ rs := by
  fun_induction atOnce rs with
  | case1 => cases h
  | case2 => cases h
  | case3 _ _ ih => exact List.mem_cons_of_mem _ (ih h)
  | case4 => cases h
  | case5 => simp

theorem mem_of_inOrder_waiting (h : inOrder rs = .waiting) : none ∈ rs := by
  fun_induction inOrder rs with
  | case1 => cases h
  | case2 => cases h
  | case3 _ _ ih => exact List.mem_cons_of_mem _ (ih h)
  | case4 => simp

theorem ok_of_atOnce_ready (h : atOnce rs = .ready) : ∀ x ∈ rs, ∃ text, x = some (.ok text) := by
  fun_induction atOnce rs with
  | case1 => simp
  | case2 => cases h
  | case3 text rest ih => simpa using ih h
  | case4 => cases h
  | case5 => cases h

theorem ok_of_inOrder_ready (h : inOrder rs = .ready) :
    ∀ x ∈ rs, ∃ text, x = some (.ok text) := by
  fun_induction inOrder rs with
  | case1 => simp
  | case2 => cases h
  | case3 text rest ih => simpa using ih h
  | case4 => cases h

theorem mem_of_all_failed (h : all rs = .failed e) : some (.error e) ∈ rs := by
  unfold all at h
  split at h
  · exact mem_of_atOnce_failed h
  · exact mem_of_inOrder_failed h

theorem mem_of_all_waiting (h : all rs = .waiting) : none ∈ rs := by
  unfold all at h
  split at h
  · exact mem_of_atOnce_waiting h
  · exact mem_of_inOrder_waiting h

theorem ok_of_all_ready (h : all rs = .ready) : ∀ x ∈ rs, ∃ text, x = some (.ok text) := by
  unfold all at h
  split at h
  · exact ok_of_atOnce_ready h
  · exact ok_of_inOrder_ready h

end Joined

/-! An answer is a result, or the exception that was raised -/

namespace Stage

variable {r : Response} {e : Error} {text : Text}

theorem result?_of_pass (h : r.tag = .pass) : result? (.answered r) = some (.ok r.text) := by
  have houtcome : r.outcome = .ok r.text := by simp [Response.outcome, Response.isPass, h]
  rw [result?, houtcome]
  rfl

theorem result?_of_fail (h : r.tag = .fail) :
    result? (.answered r) = some (.error (.channel (.remote r.text))) := by
  have houtcome : r.outcome = .error (.remote r.text) := by
    simp [Response.outcome, Response.isPass, h]
  rw [result?, houtcome]
  rfl

theorem pass_of_result? (h : result? (.answered r) = some (.ok text)) :
    r.tag = .pass ∧ text = r.text := by
  cases htag : r.tag with
  | pass =>
    rw [result?_of_pass htag] at h
    cases h
    exact ⟨rfl, rfl⟩
  | fail => rw [result?_of_fail htag] at h; cases h

theorem fail_of_result? (h : result? (.answered r) = some (.error e)) :
    r.tag = .fail ∧ e = .channel (.remote r.text) := by
  cases htag : r.tag with
  | pass => rw [result?_of_pass htag] at h; cases h
  | fail =>
    rw [result?_of_fail htag] at h
    cases h
    exact ⟨rfl, rfl⟩

end Stage

namespace Errand

variable {p : Party} {resolution : Nat → Option (Except Error Text)} {c c' : Channel Party}
  {e : Errand} {stage : Stage}

/-- The step of an errand leads to this channel and this stage. -/
inductive Moves (p : Party) (resolution : Nat → Option (Except Error Text)) (c : Channel Party)
    (e : Errand) : Channel Party → Stage → Prop
  | starts (stage : e.stage = .fresh) : Moves p resolution c e c .held
  | inherits {err} (stage : e.stage = .held)
      (joined : Joined.all (e.uses.map resolution) = .failed err) :
    Moves p resolution c e c (.failed err)
  | clears (stage : e.stage = .held) (joined : Joined.all (e.uses.map resolution) = .ready)
      (command : e.command = none) :
    Moves p resolution c e c .cleared
  | sends {kind source} (stage : e.stage = .held)
      (joined : Joined.all (e.uses.map resolution) = .ready)
      (command : e.command = some (kind, source)) :
    Moves p resolution c e (c.send kind source).1 (.sent (c.send kind source).2)
  | refused {err} (stage : e.stage = .sent (.error err)) :
    Moves p resolution c e c (.failed (.channel err))
  | takes {id r} (stage : e.stage = .sent (.ok id)) (arrived : c.pending.arrived id = some r) :
    Moves p resolution c e
      { c with pending := { c.pending with arrived := put c.pending.arrived id none } }
      (.answered r)
  | turnedAway {id err} (stage : e.stage = .sent (.ok id))
      (claims : Pending.Claims c.pending p id c.pending (.refused err)) :
    Moves p resolution c e c (.failed (.channel err))
  | parks {id} (stage : e.stage = .sent (.ok id)) (absent : c.pending.arrived id = none)
      (isOpen : c.pending.closed = none) (free : c.pending.live? id = none) :
    Moves p resolution c e
      { c with
        pending :=
          { c.pending with
            waiter := put c.pending.waiter id (some p)
            place := put c.pending.place p (.parked id) } }
      (.parked id)
  | collects {id r} (stage : e.stage = .parked id)
      (answer : c.pending.place p = .answered (.ok r)) :
    Moves p resolution c e (c.leave p) (.answered r)
  | letDown {id reason} (stage : e.stage = .parked id)
      (answer : c.pending.place p = .answered (.error reason)) :
    Moves p resolution c e (c.leave p) (.failed (.channel (.closed reason)))

theorem answer?_eq_some_iff {t : Pending Party} {answer : Except CloseReason Response} :
    t.answer? p = some answer ↔ t.place p = .answered answer := by
  cases h : t.place p <;> simp [Pending.answer?, h]

theorem moves_of_advance? (h : e.advance? p resolution c = some (c', stage)) :
    Moves p resolution c e c' stage := by
  unfold advance? at h
  split at h
  · next hs => cases h; exact .starts hs
  · next hs =>
    split at h
    · cases h
    · next hj => cases h; exact .inherits hs hj
    · next hj =>
      split at h
      · next hc => cases h; exact .clears hs hj hc
      · next hc => cases h; exact .sends hs hj hc
  · next hs => cases h; exact .refused hs
  · next id hs =>
    have hc := Pending.claims_claim c.pending p id
    unfold Channel.claim at h
    generalize c.pending.claim p id = x at h hc
    obtain ⟨t, claim⟩ := x
    cases hc with
    | takes arrived => cases h; exact .takes hs arrived
    | finds_closed absent closed => cases h; exact .turnedAway hs (.finds_closed absent closed)
    | finds_waiter absent isOpen live =>
      cases h; exact .turnedAway hs (.finds_waiter absent isOpen live)
    | parks absent isOpen free => cases h; exact .parks hs absent isOpen free
  · next id hs =>
    split at h
    · cases h
    · next hr => cases h; exact .collects hs (answer?_eq_some_iff.1 hr)
    · next hr => cases h; exact .letDown hs (answer?_eq_some_iff.1 hr)
  all_goals cases h

/-- An errand without a step has ended, or waits for a handle or for its answer. -/
theorem waits_of_advance?_eq_none (h : e.advance? p resolution c = none) :
    (∃ result, e.stage.result? = some result) ∨
    (e.stage = .held ∧ ∃ m ∈ e.uses, resolution m = none) ∨
    ∃ id, e.stage = .parked id ∧ ∀ answer, c.pending.place p ≠ .answered answer := by
  unfold advance? at h
  split at h
  · cases h
  · next hs =>
    split at h
    · next hj =>
      obtain ⟨m, hm, hr⟩ := List.mem_map.1 (Joined.mem_of_all_waiting hj)
      exact Or.inr (Or.inl ⟨hs, m, hm, hr⟩)
    · cases h
    · split at h <;> cases h
  · cases h
  · split at h <;> cases h
  · next id hs =>
    split at h
    · next hr =>
      refine Or.inr (Or.inr ⟨id, hs, fun answer ha => ?_⟩)
      rw [answer?_eq_some_iff.2 ha] at hr
      cases hr
    · cases h
    · cases h
  · next hs => exact Or.inl ⟨_, by rw [hs]; rfl⟩
  · next hs => exact Or.inl ⟨_, by rw [hs]; rfl⟩
  · next hs => exact Or.inl ⟨_, by rw [hs]; rfl⟩

end Errand

end RemoteInterpreter.Session
