import RemoteInterpreter.Proofs.Reader

/-!
# An interpreter that answers

The interpreter writes whole lines, and among them at most one answer to each command that
it has read. However its output is cut and fed, the reader takes these lines one after
the other, and none but these.
-/

namespace RemoteInterpreter

open Inbox (lineFeed)

/-- A line that the interpreter writes: the answer to a command, or something that is no answer. -/
inductive RemoteLine where
  | answer (c : Command) (r : Response)
  | other (piece : Octets)

namespace RemoteLine

def piece : RemoteLine → Octets
  | .answer _ r => Text.encode r.body
  | .other piece => piece

def command? : RemoteLine → Option Command
  | .answer c _ => some c
  | .other _ => none

/-- The octets of the lines, with their line feeds. -/
def stream (log : List RemoteLine) : Octets := log.flatMap fun line => line.piece ++ [lineFeed]

variable {log xs ys : List RemoteLine} {line : RemoteLine}

theorem stream_cons (line : RemoteLine) (log : List RemoteLine) :
    stream (line :: log) = line.piece ++ lineFeed :: stream log := by
  simp [stream]

theorem prefix_stream (h : xs <+: ys) : stream xs <+: stream ys := by
  obtain ⟨zs, rfl⟩ := h
  simp [stream]

/-- A stream of lines ends with a line feed. -/
theorem lineFeed_of_append_eq_stream {before : Octets} {b : UInt8}
    (h : before ++ [b] = stream log) : b = lineFeed := by
  rcases List.eq_nil_or_concat log with rfl | ⟨init, line, rfl⟩
  · simp [stream] at h
  · have hlast : before ++ [b] = (stream init ++ line.piece) ++ [lineFeed] := by
      simpa [stream] using h
    exact List.singleton_inj.1 (List.append_inj' hlast rfl).2

/-- After some lines of a stream the next line is the next one of the log. -/
theorem next_line {piece rest : Octets} (xsFree : ∀ x ∈ xs, lineFeed ∉ x.piece)
    (ysFree : ∀ y ∈ ys, lineFeed ∉ y.piece) (free : lineFeed ∉ piece)
    (h : stream xs ++ (piece ++ lineFeed :: rest) <+: stream ys) :
    ∃ line, ys[xs.length]? = some line ∧ line.piece = piece := by
  obtain ⟨more, h⟩ := h
  induction xs generalizing ys with
  | nil =>
    cases ys with
    | nil => simp [stream] at h
    | cons y ys =>
      rw [stream_cons, show stream [] = [] from rfl, List.nil_append, List.append_assoc,
        List.cons_append] at h
      have hcut := congrArg (Text.cut? lineFeed) h
      rw [Text.cut?_append free, Text.cut?_append (ysFree y List.mem_cons_self)] at hcut
      simp only [Option.some.injEq, Prod.mk.injEq] at hcut
      exact ⟨y, rfl, hcut.1.symm⟩
  | cons x xs ih =>
    cases ys with
    | nil => simp [stream] at h
    | cons y ys =>
      rw [stream_cons, stream_cons, List.append_assoc, List.append_assoc, List.cons_append] at h
      have hcut := congrArg (Text.cut? lineFeed) h
      rw [Text.cut?_append (xsFree x List.mem_cons_self),
        Text.cut?_append (ysFree y List.mem_cons_self)] at hcut
      simp only [Option.some.injEq, Prod.mk.injEq] at hcut
      obtain ⟨line, hline, hpiece⟩ := ih (fun z hz => xsFree z (List.mem_cons_of_mem _ hz))
        (fun z hz => ysFree z (List.mem_cons_of_mem _ hz)) (by rw [← hcut.2, List.append_assoc])
      exact ⟨line, by simpa using hline, hpiece⟩

theorem next_line_of_take {piece rest : Octets} {k : Nat} (free : ∀ x ∈ log, lineFeed ∉ x.piece)
    (pieceFree : lineFeed ∉ piece)
    (h : stream (log.take k) ++ (piece ++ lineFeed :: rest) <+: stream log) :
    ∃ line, log[k]? = some line ∧ line.piece = piece := by
  obtain ⟨line, hline, hpiece⟩ :=
    next_line (fun x hx => free x (List.mem_of_mem_take hx)) free pieceFree h
  have hlt := (List.getElem?_eq_some_iff.1 hline).1
  rw [List.length_take] at hlt hline
  exact ⟨line, by rwa [show min k log.length = k by omega] at hline, hpiece⟩

theorem stream_take_add_one {k : Nat} (h : log[k]? = some line) :
    stream (log.take (k + 1)) = stream (log.take k) ++ (line.piece ++ [lineFeed]) := by
  simp [stream, List.take_add_one, h]

end RemoteLine

namespace Session

variable {s t : Session} {a : Action} {as bs : List Action} {log : List RemoteLine} {k : Nat}

/-- In this run the interpreter writes the lines of the log. It answers a command once, after it
has read it, and in one line. What stands behind the last line feed when its output ends is a line
as well. -/
structure Answers (log : List RemoteLine) (s : Session) (as : List Action) : Prop where
  once : (log.filterMap RemoteLine.command?).Nodup
  answers : ∀ {c r}, .answer c r ∈ log → r.id = c.id ∧ r.text.breaksLine = false
  others : ∀ {piece}, .other piece ∈ log → lineFeed ∉ piece ∧ Response.ofPiece? piece = none
  reads : ∀ before, before <+: as → ∃ k, fed before <+: RemoteLine.stream (log.take k) ∧
    ∀ c r, .answer c r ∈ log.take k → c ∈ (s.run before).commandsRead
  ends : ∀ before after, as = before ++ .finish .closed :: after → fed after = [] ∧
    ∃ k, fed before = RemoteLine.stream (log.take k) ∨
      fed before ++ [lineFeed] = RemoteLine.stream (log.take k)

theorem Answers.of_append (h : Answers log s (as ++ bs)) : Answers log s as := by
  refine ⟨h.once, h.answers, h.others, ?_, ?_⟩
  · rintro before hb
    exact h.reads before (hb.trans (List.prefix_append _ _))
  · rintro before after rfl
    obtain ⟨hfed, hends⟩ := h.ends before (after ++ bs) (by simp)
    rw [fed_append, List.append_eq_nil_iff] at hfed
    exact ⟨hfed.1, hends⟩

theorem Answers.free (h : Answers log s as) : ∀ x ∈ log, lineFeed ∉ x.piece := by
  rintro (⟨c, r⟩ | piece) hx
  · have hline := (Text.breaksLine_eq_false_iff.1 (Response.breaksLine_body (h.answers hx).2)).1
    exact mt Text.lineFeed_mem_encode_iff.1 hline
  · exact (h.others hx).1

theorem Answers.endsOnce (h : Answers log s as) : EndsOnce as :=
  fun before after heq => (h.ends before after heq).1

/-- The reader has taken the first `k` lines of the log. -/
def Taken (log : List RemoteLine) (k : Nat) (as : List Action) (i : Inbox) : Prop :=
  CutOff (RemoteLine.stream (log.take k)) as i

theorem taken_empty : Taken log 0 [] Inbox.empty := cutOff_empty

/-- When the output has ended, what was fed are whole lines. -/
theorem Answers.ended (h : Answers log s as) (he : Action.finish .closed ∈ as) :
    ∃ k, fed as = RemoteLine.stream (log.take k) ∨
      fed as ++ [lineFeed] = RemoteLine.stream (log.take k) := by
  obtain ⟨before, after, rfl⟩ := List.append_of_mem he
  obtain ⟨hfed, hk⟩ := h.ends before after rfl
  rw [fed_append, show fed (.finish .closed :: after) = fed after from rfl, hfed, List.append_nil]
  exact hk

/-- What has come of the output after `k` lines belongs to a line whose command was read. -/
theorem Answers.lt_of_fed {rest : Octets} (h : Answers log s as)
    (hfed : fed as = RemoteLine.stream (log.take k) ++ rest) (hne : rest ≠ []) :
    ∀ c r, .answer c r ∈ log.take (k + 1) → c ∈ (s.run as).commandsRead := by
  obtain ⟨k', hpre, hread⟩ := h.reads as (List.prefix_refl _)
  have hlt : k < k' := by
    rcases Nat.lt_or_ge k k' with hlt | hle
    · exact hlt
    · -- otherwise more was fed than those lines hold
      have hlines :=
        (hpre.trans (RemoteLine.prefix_stream (List.take_prefix_take_left hle))).length_le
      rw [hfed, List.length_append] at hlines
      have := List.length_pos_iff.2 hne
      omega
  intro c r hmem
  exact hread c r ((List.take_prefix_take_left (by omega)).subset hmem)

/-- A piece that the reader cuts off is the next line of the log, and its command was read. -/
theorem Taken.next {octets : Octets} {i : Inbox} (ht : Taken log k as s.channel.inbox)
    (h : Answers log t as) (hread : s.channel.inbox.read = .piece octets i) :
    (∃ line, log[k]? = some line ∧ line.piece = octets) ∧
    (∀ c r, .answer c r ∈ log.take (k + 1) → c ∈ (t.run as).commandsRead) ∧
    Taken log (k + 1) (as ++ [.read]) i := by
  obtain ⟨hfree, hcut, hfed⟩ := CutOff.next ht hread
  have hnext : ∃ rest, RemoteLine.stream (log.take k) ++ (octets ++ lineFeed :: rest) <+:
      RemoteLine.stream log := by
    rcases hfed with hfed | ⟨he, hne, hfed⟩
    · obtain ⟨k', hk', -⟩ := h.reads as (List.prefix_refl _)
      exact ⟨_, hfed ▸ hk'.trans (RemoteLine.prefix_stream (List.take_prefix _ _))⟩
    · obtain ⟨k', hwhole | hpartial⟩ := h.ended he
      · -- whole lines end with a line feed, and this piece does not
        obtain ⟨init, b, rfl⟩ := List.eq_nil_or_concat octets |>.resolve_left hne
        rw [hfed, List.concat_eq_append, ← List.append_assoc] at hwhole
        have hb := RemoteLine.lineFeed_of_append_eq_stream hwhole
        simp [hb] at hfree
      · refine ⟨[], ?_⟩
        rw [← List.append_assoc, ← hfed, hpartial]
        exact RemoteLine.prefix_stream (List.take_prefix _ _)
  obtain ⟨rest, hpre⟩ := hnext
  obtain ⟨line, hline, hpiece⟩ := RemoteLine.next_line_of_take h.free hfree hpre
  refine ⟨⟨line, hline, hpiece⟩, ?_, ?_⟩
  · rcases hfed with hfed | ⟨-, hne, hfed⟩
    · exact h.lt_of_fed hfed (by simp)
    · exact h.lt_of_fed hfed hne
  · rw [Taken, RemoteLine.stream_take_add_one hline, hpiece]
    exact hcut

/-- Any other action leaves the reader at its line. -/
theorem Taken.keep (ht : Taken log k as s.channel.inbox) (h : Answers log t (as ++ [a]))
    (hread : a = .read → ∀ octets i, s.channel.inbox.read ≠ .piece octets i) :
    Taken log k (as ++ [a]) (s.act a).channel.inbox :=
  CutOff.keep ht h.endsOnce hread

end Session

end RemoteInterpreter
