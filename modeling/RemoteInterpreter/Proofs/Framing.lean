import RemoteInterpreter.Proofs.Encoding
import RemoteInterpreter.Channel.Inbox
import RemoteInterpreter.Channel.Outbox
import RemoteInterpreter.Interpreter

/-!
# Lines and messages

A message whose text keeps to its line is read from its line as it was written, by the
interpreter as well as by the reader of responses. What has come of a stream of lines
holds the first of its lines, and nothing of the line that is not complete.
-/

namespace RemoteInterpreter

/-! Lines of a text -/

namespace Text

theorem splitAt_ne_nil (mark : Char) (t : Text) : splitAt mark t ≠ [] := by
  cases t with
  | nil => exact List.cons_ne_nil _ _
  | cons c t =>
    unfold splitAt
    split
    · exact List.cons_ne_nil _ _
    · split <;> exact List.cons_ne_nil _ _

theorem splitAt_of_not_mem {mark : Char} {t : Text} (h : mark ∉ t) : splitAt mark t = [t] := by
  induction t with
  | nil => rfl
  | cons c t ih =>
    rw [List.mem_cons, not_or] at h
    simp [splitAt, ih h.2, Ne.symm h.1]

/-- The first piece ends at the first mark. -/
theorem splitAt_append {mark : Char} {t : Text} (h : mark ∉ t) (u : Text) :
    splitAt mark (t ++ mark :: u) = t :: splitAt mark u := by
  induction t with
  | nil => simp [splitAt]
  | cons c t ih =>
    rw [List.mem_cons, not_or] at h
    simp [splitAt, ih h.2, Ne.symm h.1]

theorem withoutLineEnds_of_breaksLine {t : Text} (h : t.breaksLine = false) :
    withoutLineEnds t = t := by
  have hlast : ∀ c ∈ t.reverse, (c == '\n' || c == '\r') = false := by
    simpa [breaksLine] using h
  unfold withoutLineEnds
  cases hrev : t.reverse with
  | nil => simpa using hrev.symm
  | cons c rest =>
    have hc := hlast c (by simp [hrev])
    rw [List.dropWhile_cons_of_neg (by simp [hc]), ← hrev, List.reverse_reverse]

theorem dropFinal_of_not_mem {mark : Char} {t : Text} (h : mark ∉ t) : dropFinal mark t = t :=
  dropFinal_of_ne fun hlast => h (List.mem_of_getLast? hlast)

end Text

/-! Messages -/

namespace Message

variable {τ : Type} [LineTag τ] {m : Message τ} {line : Text}

theorem not_mem_write {n : Nat} {c : Char} (h : c.isDigit = false) : c ∉ Numeral.write n := by
  intro hmem
  rw [Numeral.isDigit_of_mem_write hmem] at h
  cases h

/-- A message is read from its body exactly if its id is not too large. -/
theorem parse_of_stripped (h : stripped line = m.body) :
    parse line = if m.id < idBound then .ok m else .error (.invalidId (Numeral.write m.id)) := by
  have hid : Text.cut? '=' m.body =
      some (Numeral.write m.id, LineTag.spelling m.tag ++ '=' :: m.text) :=
    Text.cut?_append (not_mem_write (by decide)) _
  have htag : Text.cut? '=' (LineTag.spelling m.tag ++ '=' :: m.text) =
      some (LineTag.spelling m.tag, m.text) :=
    Text.cut?_append (LineTag.separator_not_mem m.tag) _
  have hread : LineTag.read? (LineTag.spelling m.tag) = some m.tag :=
    LineTag.read?_eq_some_iff.2 rfl
  unfold parse
  rw [h, hid]
  dsimp only
  rw [htag]
  dsimp only
  rw [hread, Numeral.readBelow?_write_eq]
  by_cases hlt : m.id < idBound <;> simp [hlt]

theorem breaksLine_body (tag : (LineTag.spelling m.tag).breaksLine = false)
    (text : m.text.breaksLine = false) : m.body.breaksLine = false := by
  have hid : (Numeral.write m.id).breaksLine = false :=
    Text.breaksLine_eq_false_iff.2 ⟨not_mem_write (by decide), not_mem_write (by decide)⟩
  have hcons : ∀ t : Text, Text.breaksLine ('=' :: t) = t.breaksLine := fun _ => rfl
  simp [body, hid, hcons, tag, text]

theorem parse_body (h : m.body.breaksLine = false) :
    parse m.body = if m.id < idBound then .ok m else .error (.invalidId (Numeral.write m.id)) := by
  obtain ⟨hfeed, hreturn⟩ := Text.breaksLine_eq_false_iff.1 h
  refine parse_of_stripped ?_
  rw [stripped, Text.dropFinal_of_not_mem hfeed, Text.dropFinal_of_not_mem hreturn]

end Message

theorem Command.breaksLine_body {c : Command} (h : c.text.breaksLine = false) :
    c.body.breaksLine = false := by
  refine Message.breaksLine_body ?_ h
  cases c.tag <;> decide

theorem Response.breaksLine_body {r : Response} (h : r.text.breaksLine = false) :
    r.body.breaksLine = false := by
  refine Message.breaksLine_body ?_ h
  cases r.tag <;> decide

/-- The reader finds in a line the response that was written there. -/
theorem Response.ofPiece?_encode {r : Response} (id : r.id < Message.idBound)
    (text : r.text.breaksLine = false) : ofPiece? (Text.encode r.body) = some r := by
  have h := breaksLine_body text
  unfold ofPiece?
  rw [Text.decodeLossy_encode, Text.withoutLineEnds_of_breaksLine h, Message.parse_body h,
    if_pos id]

/-! Streams of lines -/

namespace Interpreter

theorem linesOf_of_not_mem {xs : Octets} (h : 10 ∉ xs) : linesOf xs = [] := by
  unfold linesOf
  rw [Text.splitAt_of_not_mem (mt Text.lineFeed_mem_decodeLossy_iff.1 h)]
  rfl

theorem linesOf_cons {t : Text} (h : '\n' ∉ t) (xs : Octets) :
    linesOf (Text.encode t ++ 10 :: xs) = t :: linesOf xs := by
  unfold linesOf
  rw [Text.decodeLossy_append_lineFeed, Text.decodeLossy_encode, Text.splitAt_append h,
    List.dropLast_cons_of_ne_nil (Text.splitAt_ne_nil _ _)]

/-- What has come of a line and of what follows it is a part of the line, or the whole line and
something of what follows. -/
theorem prefix_line_cases {α : Type} {mark : α} {line rest xs : List α} (h : mark ∉ line)
    (hxs : xs <+: line ++ mark :: rest) :
    mark ∉ xs ∨ ∃ ys, xs = line ++ mark :: ys ∧ ys <+: rest := by
  rcases List.prefix_or_prefix_of_prefix hxs (List.prefix_append line _) with hline | ⟨zs, rfl⟩
  · exact Or.inl fun hmem => h (hline.subset hmem)
  · rw [List.prefix_append_right_inj, List.prefix_cons_iff] at hxs
    rcases hxs with rfl | ⟨ys, rfl, hys⟩
    · exact Or.inl (by simpa using h)
    · exact Or.inr ⟨ys, rfl, hys⟩

/-- Of a stream of commands the complete lines are there, in order. -/
theorem linesOf_commands {xs : Octets} {cs : List Command}
    (oneLine : ∀ c ∈ cs, c.text.breaksLine = false) (h : xs <+: cs.flatMap Outbox.octets) :
    ∃ k, linesOf xs = (cs.take k).map Message.body := by
  induction cs generalizing xs with
  | nil =>
    rw [List.flatMap_nil, List.prefix_nil] at h
    subst h
    exact ⟨0, rfl⟩
  | cons c cs ih =>
    have hfeed : '\n' ∉ c.body :=
      (Text.breaksLine_eq_false_iff.1 (c.breaksLine_body (oneLine c List.mem_cons_self))).1
    have hline : Outbox.octets c = Text.encode c.body ++ [10] := by
      rw [Outbox.octets, Message.line, Text.encode_append, Text.encode_lineFeed]
    rw [List.flatMap_cons, hline, List.append_assoc, List.singleton_append] at h
    rcases prefix_line_cases (mt Text.lineFeed_mem_encode_iff.1 hfeed) h with hnone | ⟨ys, rfl, hys⟩
    · exact ⟨0, linesOf_of_not_mem hnone⟩
    · obtain ⟨k, hk⟩ := ih (fun d hd => oneLine d (List.mem_cons_of_mem _ hd)) hys
      refine ⟨k + 1, ?_⟩
      rw [linesOf_cons hfeed, hk, List.take_succ_cons, List.map_cons]

end Interpreter

end RemoteInterpreter
