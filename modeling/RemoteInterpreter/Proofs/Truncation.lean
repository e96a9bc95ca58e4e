import RemoteInterpreter.Proofs.Arrival

/-!
# Answers that are cut off

When the stream ends within a line, the reader takes what is there of the line like any other
line. What is cut off before its second separator is no response, and whoever waits for it is
told that the channel is closed. But an answer that is cut off in its text is taken for the
whole answer.
-/

namespace RemoteInterpreter

open Inbox (lineFeed)

/-! Parts of a line -/

namespace Message

variable {τ : Type} [LineTag τ] {m : Message τ} {part : Text}

/-- What stands in a line before the text. -/
def head (m : Message τ) : Text := Numeral.write m.id ++ '=' :: (LineTag.spelling m.tag ++ ['='])

theorem body_eq_head_append (m : Message τ) : m.body = m.head ++ m.text := by
  simp [body, head]

/-- A line that is cut off in its head lacks a separator. -/
theorem parse_of_part (hpart : part <+: m.head) (hne : part ≠ m.head)
    (hline : part.breaksLine = false) : parse (τ := τ) part = .error (.missingSeparator part) := by
  obtain ⟨hfeed, hreturn⟩ := Text.breaksLine_eq_false_iff.1 hline
  have hstripped : stripped part = part := by
    rw [stripped, Text.dropFinal_of_not_mem hfeed, Text.dropFinal_of_not_mem hreturn]
  have hid : '=' ∉ Numeral.write m.id := not_mem_write (by decide)
  unfold parse
  rw [hstripped]
  rcases Interpreter.prefix_line_cases hid hpart with hnone | ⟨rest, rfl, hrest⟩
  · rw [Text.cut?_eq_none_iff.2 hnone]
  · rw [Text.cut?_append hid]
    dsimp only
    rcases Interpreter.prefix_line_cases (LineTag.separator_not_mem m.tag) hrest with
      hnone | ⟨rest', rfl, hrest'⟩
    · rw [Text.cut?_eq_none_iff.2 hnone]
    · cases List.prefix_nil.1 hrest'
      exact absurd rfl hne

end Message

namespace Response

variable {r : Response} {cut part : Octets}

theorem lt_of_mem_head {c : Char} (h : c ∈ r.head) : c.val.toNat < 128 := by
  rw [Message.head, List.mem_append, List.mem_cons, List.mem_append, List.mem_singleton] at h
  rcases h with h | rfl | h | rfl
  · have hdigit := Numeral.isDigit_of_mem_write h
    simp only [Char.isDigit, Bool.and_eq_true, decide_eq_true_eq, UInt32.le_iff_toNat_le] at hdigit
    have hnine : '9'.val.toNat = 57 := rfl
    omega
  · decide
  · have htag : r.tag.spelling.all (fun c => c.val.toNat < 128) = true := by cases r.tag <;> rfl
    exact of_decide_eq_true (List.all_eq_true.1 htag c h)
  · decide

/-- What has come of an answer ends in its head or in its text. -/
theorem head_or_text_of_prefix (h : cut <+: Text.encode r.body) :
    (∃ before : Text, before <+: r.head ∧ before ≠ r.head ∧ cut = Text.encode before) ∨
      ∃ part, cut = Text.encode r.head ++ part ∧ part <+: Text.encode r.text := by
  rw [Message.body_eq_head_append] at h
  by_cases hhead : Text.encode r.head <+: cut
  · obtain ⟨part, rfl⟩ := hhead
    rw [Text.encode_append, List.prefix_append_right_inj] at h
    exact Or.inr ⟨part, rfl, h⟩
  · obtain ⟨before, after, part, hbody, rfl, hpart⟩ := Text.split_of_prefix h
    rcases List.append_eq_append_iff.1 hbody with ⟨rest, rfl, -⟩ | ⟨rest, hrest, rfl⟩
    · exact absurd (by simp) hhead
    · cases rest with
      | nil => exact absurd (by simp [hrest]) hhead
      | cons c rest =>
        -- the characters of the head are whole
        have hnil : part = [] := by
          refine hpart.resolve_right ?_
          rintro ⟨d, more, hd, hbroken⟩
          obtain ⟨rfl, -⟩ := List.cons.inj hd
          have hmem : c ∈ r.head := by simp [hrest]
          exact Text.not_broken_of_lt (lt_of_mem_head hmem) hbroken
        exact Or.inl ⟨before, ⟨c :: rest, hrest.symm⟩, by simp [hrest], by simp [hnil]⟩

theorem ofLine?_of_head (h : cut <+: Text.encode r.body) (hhead : ¬ Text.encode r.head <+: cut)
    (text : r.text.breaksLine = false) : ofLine? cut = none := by
  rcases head_or_text_of_prefix h with ⟨before, hbefore, hne, rfl⟩ | ⟨part, rfl, -⟩
  · have hbody := Response.breaksLine_body text
    have hline : before.breaksLine = false := by
      obtain ⟨rest, hrest⟩ := hbefore
      rw [Message.body_eq_head_append, ← hrest] at hbody
      simp only [Text.breaksLine_append, Bool.or_eq_false_iff] at hbody
      exact hbody.1.1
    rw [← ofPiece?_eq, ofPiece?, Text.decodeLossy_encode,
      Text.withoutLineEnds_of_breaksLine hline, Message.parse_of_part hbefore hne hline]
  · exact absurd (List.prefix_append _ _) hhead

/-- The answer as it reads when its text is cut off. -/
def shortened (part : Octets) (r : Response) : Response := { r with text := Text.decodeLossy part }

theorem ofLine?_of_text (id : r.id < Message.idBound) (text : r.text.breaksLine = false)
    (h : part <+: Text.encode r.text) :
    ofLine? (Text.encode r.head ++ part) = some (r.shortened part) := by
  have hline : (Text.decodeLossy part).breaksLine = false := by
    obtain ⟨before, ⟨after, hsplit⟩, hread⟩ := Text.decodeLossy_of_prefix h
    have hbefore : Text.breaksLine before = false := by
      rw [← hsplit, Text.breaksLine_append, Bool.or_eq_false_iff] at text
      exact text.1
    rcases hread with hread | hread
    · rw [hread, hbefore]
    · rw [hread, Text.breaksLine_append, hbefore]
      decide
  have hbody : (r.shortened part).body = r.head ++ Text.decodeLossy part :=
    Message.body_eq_head_append _
  have hbreaks : (r.shortened part).body.breaksLine = false := breaksLine_body hline
  have hid : (r.shortened part).id < Message.idBound := id
  rw [← ofPiece?_eq, ofPiece?, Text.decodeLossy_encode_append, ← hbody,
    Text.withoutLineEnds_of_breaksLine hbreaks, Message.parse_body hbreaks, if_pos hid]

end Response

namespace Session

variable {s : Session} {p : Party} {n : Nat} {a : Action} {as : List Action} {e : Error}
variable {en : Errand} {lines : List Octets} {r x : Response} {cut : Octets}
variable {number : Nat} {stem : Text} {debug : Bool}

/-! A stream that ends within a line -/

/-- After some lines there is a part of an answer's line, without its line feed, and then the stream
ends. -/
structure EndsInside (lines : List Octets) (r : Response) (cut : Octets) (as : List Action) :
    Prop where
  once : EndsOnce as
  ended : .finish .closed ∈ as
  stream : fed as = Interpreter.joinLines lines ++ cut
  free : ∀ line ∈ lines, lineFeed ∉ line
  id : r.id < Message.idBound
  text : r.text.breaksLine = false
  begun : cut ≠ []
  part : cut <+: Text.encode r.body

theorem EndsInside.free_concat (h : EndsInside lines r cut as) :
    ∀ line ∈ lines ++ [cut], lineFeed ∉ line := by
  intro line hline
  rcases List.mem_append.1 hline with hline | hline
  · exact h.free line hline
  · cases List.mem_singleton.1 hline
    have hbody := (Text.breaksLine_eq_false_iff.1 (Response.breaksLine_body h.text)).1
    exact fun hmem => hbody (Text.lineFeed_mem_encode_iff.1 (h.part.subset hmem))

/-- The reader takes these lines, and then the part of the last one. -/
theorem EndsInside.prefix_lines (h : EndsInside lines r cut as) {taken : List Octets}
    (hi : Inserts taken s as) : taken <+: lines ++ [cut] := by
  refine Interpreter.prefix_of_joinLines hi.free h.free_concat ?_
  have hlines : Interpreter.joinLines (lines ++ [cut]) = fed as ++ [lineFeed] := by
    rw [Interpreter.joinLines_concat, h.stream, List.append_assoc]
  rw [hlines]
  rcases hi.cut.rest with ⟨hrest, -⟩ | ⟨-, -, hlast⟩ | ⟨-, -, unfinished, lost, hrest, -⟩
  · exact ⟨_, by rw [hrest, List.append_assoc]⟩
  · exact ⟨[], by rw [hlast, List.append_nil]⟩
  · exact ⟨_, by rw [hrest, List.append_assoc]⟩

theorem EndsInside.mem_of_inserted (hopen : opened number stem debug = .ok s)
    (h : EndsInside lines r cut as) (hx : x ∈ s.inserted as) :
    x ∈ lines.filterMap Response.ofLine? ∨ Response.ofLine? cut = some x := by
  obtain ⟨taken, hi⟩ := inserts_run hopen h.once
  rw [hi.inserted, List.mem_filterMap] at hx
  obtain ⟨line, hline, hx⟩ := hx
  rcases List.mem_append.1 ((h.prefix_lines hi).subset hline) with hline | hline
  · exact Or.inl (List.mem_filterMap.2 ⟨line, hline, hx⟩)
  · cases List.mem_singleton.1 hline
    exact Or.inr hx

theorem EndsInside.inserted_eq (hopen : opened number stem debug = .ok s)
    (h : EndsInside lines r cut as) (hd : CaughtUp s as) :
    s.inserted as = (lines ++ [cut]).filterMap Response.ofLine? := by
  obtain ⟨taken, hi⟩ := inserts_run hopen h.once
  rcases hi.of_caughtUp hd with ⟨hne, -⟩ | ⟨-, hinserted⟩
  · exact absurd h.ended hne
  · have hlines := Interpreter.cutLines_joinLines h.free_concat (List.not_mem_nil (a := lineFeed))
    rw [List.append_nil, Interpreter.joinLines_concat, ← List.append_assoc, ← h.stream] at hlines
    rw [hinserted, responses, hlines]

/-! The end of the stream -/

/-- A reader that stops closes the table. -/
theorem closing_of_stops (live : s.channel.inbox.stopped = false)
    (h : (s.act a).channel.inbox.stopped = true) : ∃ reason, s.closing? a = some reason := by
  rw [inbox_act] at h
  cases a with
  | read =>
    have hr := s.channel.inbox.reads_read
    cases hread : s.channel.inbox.read with
    | finished reason i => exact ⟨reason, by simp [closing?, hread]⟩
    | rested =>
      rw [hread] at h
      exact absurd (live.symm.trans h) Bool.false_ne_true
    | moved i =>
      rw [hread] at h hr
      cases hr with
      | gathers _ fills =>
        exact absurd (live.symm.trans (fills.stopped.symm.trans h)) Bool.false_ne_true
    | piece octets i =>
      rw [hread] at h hr
      cases hr with
      | cuts _ fills =>
        exact absurd (live.symm.trans (fills.stopped.symm.trans h)) Bool.false_ne_true
      | lasts => exact absurd (live.symm.trans h) Bool.false_ne_true
  | finish ending => cases ending <;> exact absurd (live.symm.trans h) Bool.false_ne_true
  | _ => exact absurd (live.symm.trans h) Bool.false_ne_true

theorem closed_of_stopped (hopen : opened number stem debug = .ok s)
    (h : (s.run as).channel.inbox.stopped = true) :
    ∃ reason, (s.run as).channel.pending.closed = some reason := by
  induction as using List.reverseRecOn with
  | nil =>
    rw [run_nil, channel_opened hopen] at h
    cases h
  | append_singleton as a ih =>
    cases hstopped : (s.run as).channel.inbox.stopped with
    | true =>
      obtain ⟨reason, hreason⟩ := ih hstopped
      exact ⟨reason, by rw [run_concat]; exact closed_act hreason a⟩
    | false =>
      rw [run_concat] at h ⊢
      obtain ⟨reason, hclosing⟩ := closing_of_stops hstopped h
      rw [closed_act_eq, hclosing]
      cases (s.run as).channel.pending.closed with
      | none => exact ⟨reason, rfl⟩
      | some first => exact ⟨first, rfl⟩

/-- When the reader has nothing left to do and the stream has ended, the table is closed. -/
theorem EndsInside.closed (hopen : opened number stem debug = .ok s)
    (h : EndsInside lines r cut as) (hd : CaughtUp s as) :
    ∃ reason, (s.run as).channel.pending.closed = some reason := by
  obtain ⟨taken, hi⟩ := inserts_run hopen h.once
  have hr := (s.run as).channel.inbox.reads_read
  rw [read_eq_rested hd.rested] at hr
  cases hr with
  | rests idle =>
    rcases idle with stopped | ⟨-, -, hended⟩
    · exact closed_of_stopped hopen stopped
    · rw [hi.cut.ended.2 h.ended] at hended
      cases hended

/-! Who waits for the answer -/

/-- The party has ended with this error. -/
def EndsWith (p : Party) (e : Error) (s : Session) : Prop :=
  match p with
  | .binding n => s.resolution? n = some (.error e)
  | .call n => s.result? n = some (.error e)

theorem endsWith_of_advance? (hrec : ∀ {n k}, s.calls n = some k → k.Recorded)
    (he : s.errand? p = some en) (waiting : en.stage.result? = none) (sent : en.stage ≠ .held)
    {c : Channel Party}
    (h : en.advance? p s.resolution? s.channel = some (c, .failed e)) :
    EndsWith p e (s.act (.advance p)) := by
  cases p with
  | binding n =>
    obtain ⟨b, hb, rfl⟩ := Option.map_eq_some_iff.1 he
    rw [EndsWith, act_advanceBinding hb h, resolution?, bindings_moved, if_pos rfl, hb]
    rfl
  | call n =>
    obtain ⟨k, hk, rfl⟩ := Option.map_eq_some_iff.1 he
    have hlive := (hrec hk).live_of_waiting waiting sent
    exact (settles_advanceCall hk hlive (fun _ _ => sent) h).result?_of_failed rfl

/-- No answer that was cut off in its head can be received, and no other one came before it. -/
theorem EndsInside.not_receivable (hopen : opened number stem debug = .ok s)
    (h : EndsInside lines r cut as) (hnone : Response.ofLine? cut = none)
    (fresh : ∀ x ∈ lines.filterMap Response.ofLine?, x.id ≠ r.id) (hid : x.id = r.id) :
    ¬ Receivable x (s.run as) := by
  intro hx
  have hinserted := (receivable_run hx).resolve_left (not_receivable_opened hopen x)
  rcases h.mem_of_inserted hopen hinserted with hx | hx
  · exact fresh x hx hid
  · rw [hnone] at hx
    cases hx

/-- Whoever still waits for an answer that was cut off in its head is told that the channel is
closed. -/
theorem EndsInside.told (hopen : opened number stem debug = .ok s)
    (h : EndsInside lines r cut as) (hnone : Response.ofLine? cut = none)
    (fresh : ∀ x ∈ lines.filterMap Response.ofLine?, x.id ≠ r.id) (hd : CaughtUp s as) :
    ∃ reason, (s.run as).channel.pending.closed = some reason ∧
      ∀ p en, (s.run as).errand? p = some en →
        en.stage = .sent (.ok r.id) ∨ en.stage = .parked r.id →
        EndsWith p (.channel (.closed reason)) ((s.run as).act (.advance p)) := by
  obtain ⟨reason, hclosed⟩ := h.closed hopen hd
  have hs := (sound_opened hopen).run as
  have htorn := hs.tornDown (shut_of_closed hopen hclosed)
  have hrec : ∀ {n k}, (s.run as).calls n = some k → k.Recorded := recorded_opened hopen as
  refine ⟨reason, hclosed, fun p en he hwaits => ?_⟩
  rcases hwaits with hstage | hstage
  · have harrived : (s.run as).channel.pending.arrived r.id = none := by
      cases hx : (s.run as).channel.pending.arrived r.id with
      | none => rfl
      | some x =>
        have hid := hs.table.keyed hx
        exact absurd (Or.inl (by rw [hid]; exact hx)) (h.not_receivable hopen hnone fresh hid)
    obtain ⟨c, hadvance⟩ := htorn.asks p en r.id he hstage
    rw [harrived] at hadvance
    exact endsWith_of_advance? hrec he (by rw [hstage]; rfl) (by simp [hstage]) hadvance
  · rcases htorn.parked p en r.id he hstage with ⟨-, hadvance⟩ | ⟨x, hid, hplace, -⟩
    · exact endsWith_of_advance? hrec he (by rw [hstage]; rfl) (by simp [hstage]) hadvance
    · exact absurd (Or.inr ⟨p, hplace⟩) (h.not_receivable hopen hnone fresh hid)

/-- When the stream ends within the line of an answer, callers obtain responses of the lines before
it, and what the part of it is taken for. If the part ends before the second separator it is
nothing, and whoever still waits for the answer is told that the channel is closed. If it ends
behind, it is taken for an answer whose text is the beginning of the text, perhaps with a
replacement behind it, and this is what the caller obtains that waits for the answer. -/
theorem cut_off_line_cases (hopen : opened number stem debug = .ok s)
    (h : EndsInside lines r cut as) :
    (∀ p id x, Happens (Obtains p id x) s as →
      x ∈ lines.filterMap Response.ofLine? ∨ Response.ofLine? cut = some x) ∧
    (¬ Text.encode r.head <+: cut → Response.ofLine? cut = none ∧
      ((∀ x ∈ lines.filterMap Response.ofLine?, x.id ≠ r.id) → CaughtUp s as →
        ∃ reason, (s.run as).channel.pending.closed = some reason ∧
          ∀ p en, (s.run as).errand? p = some en →
            en.stage = .sent (.ok r.id) ∨ en.stage = .parked r.id →
            EndsWith p (.channel (.closed reason)) ((s.run as).act (.advance p)))) ∧
    ∀ part, cut = Text.encode r.head ++ part →
      (∃ before : Text, before <+: r.text ∧ (Text.decodeLossy part = before ∨
        Text.decodeLossy part = before ++ [Text.replacement])) ∧
      Response.ofLine? cut = some (r.shortened part) ∧
      (CaughtUp s as → s.inserted as = lines.filterMap Response.ofLine? ++ [r.shortened part]) ∧
      ∀ before a after, as = before ++ a :: after →
        (s.run before).inserted? a = some (r.shortened part) →
        (∀ p, (s.run before).channel.pending.live? r.id = some p →
          Obtains p r.id (r.shortened part) ((s.run before).act a) (.advance p)) ∧
        ((s.run before).channel.pending.waiter r.id = none →
          ((s.run before).act a).channel.pending.arrived r.id = some (r.shortened part)) := by
  have hs := sound_opened hopen
  refine ⟨?_, ?_, ?_⟩
  · intro p id x hx
    exact h.mem_of_inserted hopen (inserted_of_obtains hopen hx)
  · intro hhead
    have hnone := Response.ofLine?_of_head h.part hhead h.text
    exact ⟨hnone, fun fresh hd => h.told hopen hnone fresh hd⟩
  · rintro part rfl
    have hpart : part <+: Text.encode r.text := by
      have hbody := h.part
      rwa [Message.body_eq_head_append, Text.encode_append, List.prefix_append_right_inj] at hbody
    have hread := Response.ofLine?_of_text h.id h.text hpart
    refine ⟨Text.decodeLossy_of_prefix hpart, hread, fun hd => ?_, ?_⟩
    · rw [h.inserted_eq hopen hd, List.filterMap_append]
      simp [hread]
    · rintro before a after rfl hx
      exact ⟨fun p hl => obtains_of_inserted (hs.run before) hx hl, arrived_of_inserted hx⟩

/-- A call waits for the answer to its command when these octets come. -/
def crashing (octets : Octets) : List Action :=
  [.begin (.eval ['x']), .advance (.call 0), .advance (.call 0), .feed octets]

theorem endsOnce_crashing (octets : Octets) {after : List Action} (silent : fed after = []) :
    EndsOnce (crashing octets ++ .finish .closed :: after) :=
  endsOnce_of_silent (by simp [crashing]) silent

/-- The stream ends in the status of the answer. -/
def cutInHead : List Action :=
  crashing [48, 61, 80, 65] ++ .finish .closed :: [.read, .read, .read]

theorem endsInside_cutInHead : EndsInside [] ⟨0, .pass, ['1']⟩ [48, 61, 80, 65] cutInHead :=
  ⟨endsOnce_crashing _ rfl, by simp [cutInHead], rfl, nofun, by decide, by decide, nofun,
    by decide⟩

theorem cut_off_line_cases_head :
    opened 0 ['v'] false = .ok newSession ∧
    EndsInside [] ⟨0, .pass, ['1']⟩ [48, 61, 80, 65] cutInHead ∧
    CaughtUp newSession cutInHead ∧
    EndsWith (.call 0) (.channel (.closed .outputClosed))
      ((newSession.run cutInHead).act (.advance (.call 0))) := by
  have caughtUp : CaughtUp newSession cutInHead :=
    ⟨by simp [cutInHead, crashing], Option.isNone_iff_eq_none.1 (by decide +kernel)⟩
  obtain ⟨-, hhead, -⟩ := cut_off_line_cases opened_newSession endsInside_cutInHead
  obtain ⟨-, hwaits⟩ := hhead (by decide)
  obtain ⟨reason, hclosed, htold⟩ := hwaits nofun caughtUp
  have hreason : (newSession.run cutInHead).channel.pending.closed = some .outputClosed := by
    decide +kernel
  cases hclosed.symm.trans hreason
  exact ⟨opened_newSession, endsInside_cutInHead, caughtUp, htold (.call 0) _ rfl (Or.inr rfl)⟩

/-- The stream ends before the last digit of the answer. -/
def cutInText : List Action :=
  crashing [48, 61, 80, 65, 83, 83, 61, 49, 50] ++
    .finish .closed :: [.read, .read, .read, .advance (.call 0)]

/-- What a caller obtains may be made of a part of an answer. -/
theorem obtains_part_of_answer :
    ¬ ∀ (number : Nat) (stem : Text) (debug : Bool) (s : Session) (as : List Action)
      (lines : List Octets) (r : Response) (cut : Octets) (p : Party) (id : Nat) (x : Response),
      opened number stem debug = .ok s → EndsInside lines r cut as →
      Happens (Obtains p id x) s as → x ∈ lines.filterMap Response.ofLine? := by
  intro h
  have hends : EndsInside [] ⟨0, .pass, ['1', '2', '3']⟩ [48, 61, 80, 65, 83, 83, 61, 49, 50]
      cutInText :=
    ⟨endsOnce_crashing _ rfl, by simp [cutInText], rfl, nofun, by decide, by decide, nofun,
      by decide⟩
  have hobtains : Happens (Obtains (.call 0) 0 ⟨0, .pass, ['1', '2']⟩) newSession cutInText :=
    ⟨cutInText.dropLast, .advance (.call 0), [], rfl, .later rfl rfl rfl⟩
  have hmem := h 0 ['v'] false newSession cutInText [] _ _ _ _ _ opened_newSession hends hobtains
  cases hmem

end Session

end RemoteInterpreter
