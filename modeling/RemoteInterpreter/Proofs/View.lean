import RemoteInterpreter.Proofs.Step

/-!
# Views of a session

What each operation of a session does to the errand of any party, to the bindings, the
calls and the table of responses. After this nobody opens the operations again.
-/

namespace RemoteInterpreter.Session

variable {s : Session} {p q : Party} {n : Nat}

@[simp] theorem errand?_binding (n : Nat) (s : Session) :
    s.errand? (.binding n) = (s.bindings n).map Binding.errand := rfl

@[simp] theorem errand?_call (n : Nat) (s : Session) :
    s.errand? (.call n) = (s.calls n).map Call.errand := rfl

@[simp] theorem errand?_channel (c : Channel Party) (s : Session) (q : Party) :
    errand? q { s with channel := c } = s.errand? q := by
  cases q <;> rfl

@[simp] theorem errand?_registerLocal (e : Entry) (s : Session) (q : Party) :
    (s.registerLocal e).errand? q = s.errand? q := by
  cases q <;> rfl

/-! Putting down a binding or a call -/

@[simp] theorem bindings_putCall (n : Nat) (k : Call) (s : Session) :
    (s.putCall n k).bindings = s.bindings := rfl

@[simp] theorem calls_putCall (n : Nat) (k : Call) (s : Session) :
    (s.putCall n k).calls = put s.calls n (some k) := rfl

@[simp] theorem channel_putCall (n : Nat) (k : Call) (s : Session) :
    (s.putCall n k).channel = s.channel := rfl

@[simp] theorem built_putCall (n : Nat) (k : Call) (s : Session) :
    (s.putCall n k).built = s.built := rfl

@[simp] theorem begun_putCall (n : Nat) (k : Call) (s : Session) :
    (s.putCall n k).begun = s.begun := rfl

theorem errand?_putCall (n : Nat) (k : Call) (s : Session) (q : Party) :
    (s.putCall n k).errand? q = if q = .call n then some k.errand else s.errand? q := by
  cases q with
  | binding m => simp
  | call m => by_cases h : m = n <;> simp [put, h]

@[simp] theorem calls_markEvaluated (n : Nat) (s : Session) :
    (s.markEvaluated n).calls = s.calls := by
  unfold markEvaluated; split <;> rfl

@[simp] theorem channel_markEvaluated (n : Nat) (s : Session) :
    (s.markEvaluated n).channel = s.channel := by
  unfold markEvaluated; split <;> rfl

@[simp] theorem built_markEvaluated (n : Nat) (s : Session) :
    (s.markEvaluated n).built = s.built := by
  unfold markEvaluated; split <;> rfl

@[simp] theorem begun_markEvaluated (n : Nat) (s : Session) :
    (s.markEvaluated n).begun = s.begun := by
  unfold markEvaluated; split <;> rfl

@[simp] theorem handleAt_markEvaluated (n : Nat) (s : Session) :
    (s.markEvaluated n).handleAt = s.handleAt := by
  unfold markEvaluated; split <;> rfl

/-- A force that went well changes the recorded state of its handle and nothing else. -/
theorem bindings_markEvaluated (h : Nat) (s : Session) (n : Nat) :
    (s.markEvaluated h).bindings n =
      if n = h then (s.bindings n).map fun b => { b with state := b.state.marked }
      else s.bindings n := by
  unfold markEvaluated
  cases hb : s.bindings h with
  | none => by_cases hn : n = h <;> simp [hn, hb]
  | some b => by_cases hn : n = h <;> simp [putBinding, put, hn, hb]

@[simp] theorem errand?_markEvaluated (h : Nat) (s : Session) (q : Party) :
    (s.markEvaluated h).errand? q = s.errand? q := by
  cases q with
  | binding n =>
    rw [errand?_binding, errand?_binding, bindings_markEvaluated]
    split
    · cases s.bindings n <;> rfl
    · rfl
  | call n => simp

/-! Beginning and dropping a call -/

theorem errand?_begin (r : Request) (s : Session) (q : Party) :
    (s.begin r).1.errand? q =
      if q = .call s.begun then some (Call.ofRequest s.number r).errand else s.errand? q := by
  cases q with
  | binding m => simp [begin]
  | call m => by_cases h : m = s.begun <;> simp [begin, h]

theorem errand?_drop (n : Nat) (s : Session) (q : Party) :
    (s.drop n).errand? q = if q = .call n then none else s.errand? q := by
  cases q with
  | binding m => simp [drop]
  | call m => by_cases h : m = n <;> simp [drop, h]

/-! A step of an errand -/

@[simp] theorem channel_moved (p : Party) (c : Channel Party) (stage : Stage) (s : Session) :
    (s.moved p c stage).channel = c := by
  cases p <;> rfl

@[simp] theorem built_moved (p : Party) (c : Channel Party) (stage : Stage) (s : Session) :
    (s.moved p c stage).built = s.built := by
  cases p <;> rfl

@[simp] theorem begun_moved (p : Party) (c : Channel Party) (stage : Stage) (s : Session) :
    (s.moved p c stage).begun = s.begun := by
  cases p <;> rfl

@[simp] theorem handleAt_moved (p : Party) (c : Channel Party) (stage : Stage) (s : Session) :
    (s.moved p c stage).handleAt = s.handleAt := by
  cases p <;> rfl

theorem errand?_moved (p : Party) (c : Channel Party) (stage : Stage) (s : Session) (q : Party) :
    (s.moved p c stage).errand? q =
      if q = p then (s.errand? p).map fun e => { e with stage := stage } else s.errand? q := by
  cases p with
  | binding n =>
    cases q with
    | binding m =>
      by_cases h : m = n <;> simp [moved, put, h]
      cases s.bindings n <;> rfl
    | call m => simp [moved]
  | call n =>
    cases q with
    | binding m => simp [moved]
    | call m =>
      by_cases h : m = n <;> simp [moved, put, h]
      cases s.calls n <;> rfl

theorem bindings_moved (p : Party) (c : Channel Party) (stage : Stage) (s : Session) (n : Nat) :
    (s.moved p c stage).bindings n =
      if p = .binding n then (s.bindings n).map (Binding.atStage stage) else s.bindings n := by
  cases p with
  | binding m => by_cases h : n = m <;> simp [moved, put, h, eq_comm]
  | call m => simp [moved]

theorem calls_moved (p : Party) (c : Channel Party) (stage : Stage) (s : Session) (n : Nat) :
    (s.moved p c stage).calls n =
      if p = .call n then (s.calls n).map (Call.atStage stage) else s.calls n := by
  cases p with
  | binding m => simp [moved]
  | call m => by_cases h : n = m <;> simp [moved, put, h, eq_comm]

/-! Building a handle -/

/-- The next handle's binding, and the channel once it is built. -/
inductive Binds (s : Session) (x : Expression) : Bool → Channel Party → Binding → Prop
  | outside : Binds s x false s.channel
    ⟨x, .failed, Binding.errandAt (s.handleAt s.built) x (.failed (.usage .outsideRuntime))⟩
  | atOnce (bound : ∀ m ∈ Binding.uses x, s.isBound m = true) : Binds s x true
    (s.channel.send .exec (Binding.source (s.handleAt s.built) x)).1
    ⟨x, .resolving, Binding.errandAt (s.handleAt s.built) x
      (.sent (s.channel.send .exec (Binding.source (s.handleAt s.built) x)).2)⟩
  | deferred {m} (mem : m ∈ Binding.uses x) (unbound : s.isBound m = false) :
    Binds s x true s.channel
    ⟨x, .created, Binding.errandAt (s.handleAt s.built) x .fresh⟩

theorem bind_eq (running : Bool) (x : Expression) (s : Session) :
    ∃ c b, Binds s x running c b ∧ s.bind running x = { s with channel := c }.addBinding b := by
  cases running with
  | false => exact ⟨_, _, .outside, rfl⟩
  | true =>
    by_cases h : (Binding.uses x).all s.isBound = true
    · refine ⟨_, _, .atOnce (List.all_eq_true.1 h), ?_⟩
      simp [bind, h]
    · obtain ⟨m, hm, hb⟩ := List.all_eq_false.1 (Bool.eq_false_iff.2 h)
      refine ⟨_, _, .deferred hm (Bool.eq_false_iff.2 hb), ?_⟩
      simp [bind, h]

@[simp] theorem calls_bind (running : Bool) (x : Expression) (s : Session) :
    (s.bind running x).calls = s.calls := by
  obtain ⟨c, b, -, heq⟩ := bind_eq running x s
  rw [heq]; rfl

@[simp] theorem built_bind (running : Bool) (x : Expression) (s : Session) :
    (s.bind running x).built = s.built + 1 := by
  obtain ⟨c, b, -, heq⟩ := bind_eq running x s
  rw [heq]; rfl

@[simp] theorem begun_bind (running : Bool) (x : Expression) (s : Session) :
    (s.bind running x).begun = s.begun := by
  obtain ⟨c, b, -, heq⟩ := bind_eq running x s
  rw [heq]; rfl

theorem errand?_addBinding (b : Binding) (s : Session) (q : Party) :
    (s.addBinding b).errand? q =
      if q = .binding s.built then some b.errand else s.errand? q := by
  cases q with
  | binding m => by_cases h : m = s.built <;> simp [addBinding, putBinding, put, h]
  | call m => simp [addBinding, putBinding]

/-! Sending -/

@[simp] theorem pending_send (kind : Kind) (source : Text) (c : Channel Party) :
    (c.send kind source).1.pending = c.pending := by
  unfold Channel.send
  split
  · rfl
  · split <;> rfl

/-- Building a handle may send, and so leaves the table as it is. -/
theorem Binds.pending {x : Expression} {running : Bool} {c : Channel Party} {b : Binding}
    (h : Binds s x running c b) : c.pending = s.channel.pending := by
  cases h with
  | outside => rfl
  | atOnce => exact pending_send _ _ _
  | deferred => rfl

/-- What is sent depends on the queue and on whether the table is closed. -/
theorem outbox_send_congr {c d : Channel Party} (outbox : c.outbox = d.outbox)
    (closed : c.pending.closed = d.pending.closed) (kind : Kind) (source : Text) :
    (c.send kind source).1.outbox = (d.send kind source).1.outbox := by
  unfold Channel.send
  rw [closed]
  split
  · exact outbox
  · split
    · exact outbox
    · rw [outbox]

theorem ticket_send_congr {c d : Channel Party} (outbox : c.outbox = d.outbox)
    (closed : c.pending.closed = d.pending.closed) (kind : Kind) (source : Text) :
    (c.send kind source).2 = (d.send kind source).2 := by
  unfold Channel.send
  rw [closed]
  split
  · rfl
  · split
    · rfl
    · rw [Channel.commandsSent, outbox]
      rfl

/-- No step of an errand closes the table. -/
theorem Errand.Moves.closed {e : Errand} {resolution : Nat → Option (Except Error Text)}
    {c c' : Channel Party} {stage : Stage} (h : Errand.Moves p resolution c e c' stage) :
    c'.pending.closed = c.pending.closed := by
  cases h with
  | sends => rw [pending_send]
  | _ => rfl

/-! Storing an entry -/

/-- An entry with an encoder is stored and its registration sent in one step. -/
inductive Stores (s : Session) (n : Nat) (k : Call) (e : Entry) (rest : List Entry) :
    Session → Prop
  | silently (plain : e.encoder = none) :
    Stores s n k e rest ((s.registerLocal e).putCall n { k with goal := .installed rest })
  | sending {encoder} (encodes : e.encoder = some encoder) :
    Stores s n k e rest
      ({ s.registerLocal e with
          channel := (s.channel.send .exec (registration e.tag encoder)).1 }.putCall n
        (Call.atStage (.sent (s.channel.send .exec (registration e.tag encoder)).2)
          { k with goal := .installed rest }))

theorem stores_store (n : Nat) (k : Call) (e : Entry) (rest : List Entry) (s : Session) :
    Stores s n k e rest (s.store n k e rest) := by
  unfold store
  split
  · next h => exact .silently h
  · next encoder h => exact .sending h

end RemoteInterpreter.Session
