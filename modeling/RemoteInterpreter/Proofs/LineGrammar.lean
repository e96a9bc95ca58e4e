import RemoteInterpreter.Channel
import RemoteInterpreter.Proofs.Framing

/-!
# The grammar of wire lines

What a line has to look like is said here without the reader: an id, a word and a text with a
separator between any two, and a line end behind them if one likes. The reader takes these lines
and no others, and names the first thing that is wrong with any other line. A message comes back
from its own line, less one carriage return if its text ends with one.
-/

namespace RemoteInterpreter

/-! Line ends -/

namespace Text

/-- What is left of a text when it gives up one final mark, if it has one. -/
inductive Sheds (mark : Char) : Text → Text → Prop
  | final (t) : Sheds mark (t ++ [mark]) t
  | nothing {t} (other : t.getLast? ≠ some mark) : Sheds mark t t

variable {mark : Char} {t u : Text}

theorem Sheds.eq_dropFinal (h : Sheds mark t u) : u = dropFinal mark t := by
  cases h with
  | final => rw [dropFinal_append]
  | nothing other => rw [dropFinal_of_ne other]

theorem sheds_dropFinal (mark : Char) (t : Text) : Sheds mark t (dropFinal mark t) := by
  by_cases h : t.getLast? = some mark
  · obtain ⟨u, rfl⟩ := List.getLast?_eq_some_iff.1 h
    rw [dropFinal_append]
    exact .final u
  · rw [dropFinal_of_ne h]
    exact .nothing h

theorem dropFinal_append_of_ne_nil (t : Text) (h : u ≠ []) :
    dropFinal mark (t ++ u) = t ++ dropFinal mark u := by
  have hlast : (t ++ u).getLast? = u.getLast? := by
    rw [List.getLast?_append, List.getLast?_eq_some_getLast h]
    rfl
  unfold dropFinal
  rw [hlast, List.dropLast_append_of_ne_nil h]
  split <;> rfl

theorem dropFinal_cons {c : Char} (h : c ≠ mark) (t : Text) :
    dropFinal mark (c :: t) = c :: dropFinal mark t := by
  cases t with
  | nil => simp [dropFinal, h]
  | cons d t => exact dropFinal_append_of_ne_nil [c] (List.cons_ne_nil d t)

end Text

/-! Ids -/

namespace Numeral

/-- A number may be written with any number of leading zeros and with a plus sign. -/
def Spells (t : Text) (n : Nat) : Prop :=
  ∃ digits : Text, (t = digits ∨ t = '+' :: digits) ∧ digits ≠ [] ∧
    (∀ c ∈ digits, c.isDigit = true) ∧ Nat.ofDigitChars 10 digits 0 = n

variable {t : Text} {n bound : Nat}

theorem read?_eq_some_iff :
    read? t = some n ↔ t ≠ [] ∧ (∀ c ∈ t, c.isDigit = true) ∧ Nat.ofDigitChars 10 t 0 = n := by
  simp [read?, isNumeral, value, and_assoc]

theorem spells_plus (rest : Text) : Spells ('+' :: rest) n ↔ read? rest = some n := by
  rw [read?_eq_some_iff]
  constructor
  · rintro ⟨digits, heq | heq, hne, hall, hvalue⟩
    · subst heq
      exact absurd (hall '+' List.mem_cons_self) (by decide)
    · cases heq
      exact ⟨hne, hall, hvalue⟩
  · exact fun h => ⟨rest, Or.inr rfl, h⟩

theorem spells_of_ne_plus (h : ∀ rest, t ≠ '+' :: rest) : Spells t n ↔ read? t = some n := by
  rw [read?_eq_some_iff]
  constructor
  · rintro ⟨digits, rfl | heq, hdigits⟩
    · exact hdigits
    · exact absurd heq (h digits)
  · exact fun hdigits => ⟨t, Or.inl rfl, hdigits⟩

theorem readBelow?_eq_some_iff : readBelow? bound t = some n ↔ Spells t n ∧ n < bound := by
  unfold readBelow?
  split
  · next rest =>
    dsimp only
    rw [spells_plus]
    cases read? rest <;> grind
  · next h =>
    dsimp only
    rw [spells_of_ne_plus h]
    cases read? t <;> grind

theorem Spells.not_mem (h : Spells t n) : '=' ∉ t := by
  obtain ⟨digits, ht, -, hall, -⟩ := h
  have hdigits : '=' ∉ digits := fun hmem => absurd (hall '=' hmem) (by decide)
  rcases ht with rfl | rfl
  · exact hdigits
  · simpa using hdigits

end Numeral

/-! Lines -/

namespace Message

/-- What a line holds in front of its end. -/
def Stripped (line s : Text) : Prop := ∃ t, Text.Sheds '\n' line t ∧ Text.Sheds '\r' t s

/-- The three fields between the first two separators and behind them. -/
structure Fields (s id tag text : Text) : Prop where
  eq : s = id ++ '=' :: (tag ++ '=' :: text)
  id : '=' ∉ id
  tag : '=' ∉ tag

/-- The lines of a message, where `word` gives the tags their words. -/
inductive Spelled {τ : Type} (word : τ → Text) (line : Text) : Message τ → Prop
  | intro {id n tag text}
      (stripped : Stripped line (id ++ '=' :: (word tag ++ '=' :: text)))
      (number : Numeral.Spells id n) (below : n < 2 ^ 64) : Spelled word line ⟨n, tag, text⟩

/-- What is wrong with a line: the lack of a separator goes before a bad id, and this before a bad
tag. -/
inductive Refused {τ : Type} (word : τ → Text) (unknown : Text → LineError) (line : Text) :
    LineError → Prop
  | separator {s} (stripped : Stripped line s) (few : s.count '=' < 2) :
    Refused word unknown line (.missingSeparator s)
  | id {s id tag text} (stripped : Stripped line s) (fields : Fields s id tag text)
      (bad : ∀ n < 2 ^ 64, ¬ Numeral.Spells id n) : Refused word unknown line (.invalidId id)
  | tag {s id tag text n} (stripped : Stripped line s) (fields : Fields s id tag text)
      (number : Numeral.Spells id n) (below : n < 2 ^ 64) (bad : ∀ t, tag ≠ word t) :
    Refused word unknown line (unknown tag)

variable {τ : Type} [LineTag τ] {line s : Text} {m : Message τ} {e : LineError}

theorem stripped_stripped (line : Text) : Stripped line (stripped line) :=
  ⟨_, Text.sheds_dropFinal _ _, Text.sheds_dropFinal _ _⟩

theorem Stripped.eq (h : Stripped line s) : stripped line = s := by
  obtain ⟨t, hfeed, hreturn⟩ := h
  rw [hreturn.eq_dropFinal, hfeed.eq_dropFinal]
  rfl

/-! The reader -/

theorem Fields.cut {id tag text : Text} (h : Fields s id tag text) :
    Text.cut? '=' s = some (id, tag ++ '=' :: text) ∧
      Text.cut? '=' (tag ++ '=' :: text) = some (tag, text) :=
  ⟨Text.cut?_eq_some_iff.2 ⟨h.eq, h.id⟩, Text.cut?_append h.tag text⟩

/-- A text has its three fields, or a separator is missing. -/
theorem fields_or_few (s : Text) : (∃ id tag text, Fields s id tag text) ∨ s.count '=' < 2 := by
  cases hfirst : Text.cut? '=' s with
  | none =>
    rw [Text.cut?_eq_none_iff] at hfirst
    exact Or.inr (by simp [List.count_eq_zero.2 hfirst])
  | some halves =>
    obtain ⟨id, rest⟩ := halves
    obtain ⟨rfl, hid⟩ := Text.cut?_eq_some_iff.1 hfirst
    cases hsecond : Text.cut? '=' rest with
    | none =>
      rw [Text.cut?_eq_none_iff] at hsecond
      exact Or.inr (by simp [List.count_eq_zero.2 hid, List.count_eq_zero.2 hsecond])
    | some halves =>
      obtain ⟨tag, text⟩ := halves
      obtain ⟨rfl, htag⟩ := Text.cut?_eq_some_iff.1 hsecond
      exact Or.inl ⟨id, tag, text, rfl, hid, htag⟩

/-- Once the fields are known the reader looks at the id and then at the tag. -/
theorem parse_of_fields {id tag text : Text} (hs : Stripped line s) (h : Fields s id tag text) :
    parse line = (Numeral.readBelow? idBound id).elim (.error (.invalidId id)) fun n =>
      (LineTag.read? (τ := τ) tag).elim (.error (LineTag.unknown τ tag)) fun t =>
        .ok ⟨n, t, text⟩ := by
  unfold parse
  rw [hs.eq, h.cut.1]
  dsimp only
  rw [h.cut.2]
  dsimp only
  cases Numeral.readBelow? idBound id with
  | none => rfl
  | some n => cases LineTag.read? (τ := τ) tag <;> rfl

theorem parse_of_spelled (h : Spelled LineTag.spelling line m) : parse line = .ok m := by
  cases h with
  | @intro id n tag text stripped number below =>
    have hfields : Fields _ id (LineTag.spelling tag) text :=
      ⟨rfl, number.not_mem, LineTag.separator_not_mem tag⟩
    have hid : Numeral.readBelow? idBound id = some n :=
      Numeral.readBelow?_eq_some_iff.2 ⟨number, below⟩
    rw [parse_of_fields stripped hfields, hid, Option.elim_some, LineTag.read?_eq_some_iff.2 rfl,
      Option.elim_some]

theorem parse_of_refused (h : Refused (LineTag.spelling (τ := τ)) (LineTag.unknown τ) line e) :
    parse (τ := τ) line = .error e := by
  cases h with
  | separator stripped few =>
    unfold parse
    rw [stripped.eq]
    split
    · rfl
    · next id rest hfirst =>
      obtain ⟨rfl, hid⟩ := Text.cut?_eq_some_iff.1 hfirst
      split
      · rfl
      · next tag text hsecond =>
        -- two separators are there after all
        obtain ⟨rfl, htag⟩ := Text.cut?_eq_some_iff.1 hsecond
        simp only [List.count_append, List.count_cons_self] at few
        omega
  | @id _ id _ _ stripped fields bad =>
    have hid : Numeral.readBelow? idBound id = none := by
      rw [Option.eq_none_iff_forall_ne_some]
      intro n hn
      obtain ⟨number, below⟩ := Numeral.readBelow?_eq_some_iff.1 hn
      exact bad n below number
    rw [parse_of_fields stripped fields, hid, Option.elim_none]
  | @tag _ id tag _ n stripped fields number below bad =>
    have hid : Numeral.readBelow? idBound id = some n :=
      Numeral.readBelow?_eq_some_iff.2 ⟨number, below⟩
    have htag : LineTag.read? (τ := τ) tag = none := by
      rw [Option.eq_none_iff_forall_ne_some]
      exact fun t ht => bad t (LineTag.read?_eq_some_iff.1 ht)
    rw [parse_of_fields stripped fields, hid, Option.elim_some, htag, Option.elim_none]

/-- Every line is in the grammar or is refused. -/
theorem spelled_or_refused (τ : Type) [LineTag τ] (line : Text) :
    (∃ m : Message τ, Spelled LineTag.spelling line m) ∨
      ∃ e, Refused (LineTag.spelling (τ := τ)) (LineTag.unknown τ) line e := by
  have hs := stripped_stripped line
  rcases fields_or_few (stripped line) with ⟨id, tag, text, fields⟩ | few
  · by_cases hid : ∃ n < 2 ^ 64, Numeral.Spells id n
    · obtain ⟨n, below, number⟩ := hid
      by_cases htag : ∃ t : τ, tag = LineTag.spelling t
      · obtain ⟨t, rfl⟩ := htag
        rw [fields.eq] at hs
        exact Or.inl ⟨_, .intro hs number below⟩
      · exact Or.inr ⟨_, .tag hs fields number below fun t heq => htag ⟨t, heq⟩⟩
    · exact Or.inr ⟨_, .id hs fields fun n below number => hid ⟨n, below, number⟩⟩
  · exact Or.inr ⟨_, .separator hs few⟩

theorem parse_eq_ok_iff : parse line = .ok m ↔ Spelled LineTag.spelling line m := by
  refine ⟨fun h => ?_, parse_of_spelled⟩
  rcases spelled_or_refused τ line with ⟨m', hm⟩ | ⟨e, he⟩
  · rw [parse_of_spelled hm] at h
    cases h
    exact hm
  · rw [parse_of_refused he] at h
    cases h

theorem parse_eq_error_iff : parse (τ := τ) line = .error e ↔
    Refused (LineTag.spelling (τ := τ)) (LineTag.unknown τ) line e := by
  refine ⟨fun h => ?_, parse_of_refused⟩
  rcases spelled_or_refused τ line with ⟨m, hm⟩ | ⟨e', he⟩
  · rw [parse_of_spelled hm] at h
    cases h
  · rw [parse_of_refused he] at h
    cases h
    exact he

/-- The reader of commands and the reader of responses take the lines of their grammar and no
others, and say of any other line what is wrong with it. -/
theorem accepts_exactly_grammar :
    ((∀ (line : Text) (c : Command), parse line = .ok c ↔ Spelled Kind.spelling line c) ∧
      ∀ (line : Text) (e : LineError), parse (τ := Kind) line = .error e ↔
        Refused Kind.spelling .unknownKind line e) ∧
    (∀ (line : Text) (r : Response), parse line = .ok r ↔ Spelled Status.spelling line r) ∧
      ∀ (line : Text) (e : LineError), parse (τ := Status) line = .error e ↔
        Refused Status.spelling .unknownStatus line e :=
  ⟨⟨fun _ _ => parse_eq_ok_iff, fun _ _ => parse_eq_error_iff⟩,
    fun _ _ => parse_eq_ok_iff, fun _ _ => parse_eq_error_iff⟩

example : parse "+007=EVAL=a=b\r\n".toList = .ok (⟨7, .eval, "a=b".toList⟩ : Command) := by cbv

/-! Messages from their own lines -/

/-- The line end takes one carriage return of the text with it. -/
theorem stripped_line (m : Message τ) :
    stripped m.line = ({ m with text := Text.dropFinal '\r' m.text } : Message τ).body := by
  have hne : '=' ≠ '\r' := by decide
  rw [stripped, Message.line, Text.dropFinal_append, body,
    Text.dropFinal_append_of_ne_nil _ (List.cons_ne_nil _ _), Text.dropFinal_cons hne,
    Text.dropFinal_append_of_ne_nil _ (List.cons_ne_nil _ _), Text.dropFinal_cons hne]
  rfl

theorem parse_line (m : Message τ) : parse m.line =
    if m.id < idBound then .ok { m with text := Text.dropFinal '\r' m.text }
    else .error (.invalidId (Numeral.write m.id)) :=
  parse_of_stripped (stripped_line m)

/-- A message comes back from its line, but for one carriage return at the end of its text. -/
structure ReadBack (m : Message τ) : Prop where
  whole : parse m.line = .ok m ↔ m.text.getLast? ≠ some '\r'
  cut : ∀ text, m.text = text ++ ['\r'] → parse m.line = .ok { m with text := text }

theorem readBack_of_lt (h : m.id < idBound) : m.ReadBack := by
  have hparse : parse m.line = .ok { m with text := Text.dropFinal '\r' m.text } := by
    rw [parse_line, if_pos h]
  constructor
  · rw [hparse]
    constructor
    · intro heq hlast
      have htext : Text.dropFinal '\r' m.text = m.text := by
        injection heq with heq
        exact congrArg Message.text heq
      obtain ⟨u, hu⟩ := List.getLast?_eq_some_iff.1 hlast
      rw [hu, Text.dropFinal_append] at htext
      simpa using congrArg List.length htext
    · intro hlast
      rw [Text.dropFinal_of_ne hlast]
  · intro text htext
    rw [hparse, htext, Text.dropFinal_append]

theorem parse_of_oneLine (id : m.id < idBound) (h : m.text.breaksLine = false) :
    parse m.line = .ok m :=
  (readBack_of_lt id).whole.2 fun hlast =>
    (Text.breaksLine_eq_false_iff.1 h).2 (List.mem_of_getLast? hlast)

/-- Commands and responses come back from their lines whatever their texts hold, unless a text
ends with a carriage return; so does all that a channel sends, and every answer on one line. -/
theorem messages_read_back :
    (∀ c : Command, c.id < 2 ^ 64 → c.ReadBack) ∧ (∀ r : Response, r.id < 2 ^ 64 → r.ReadBack) ∧
    (∀ (κ : Type) (channel channel' : Channel κ) (kind : Kind) (source : Text) (id : Nat),
      channel.send kind source = (channel', .ok id) → id < 2 ^ 64 →
      channel'.outbox.commands = channel.outbox.commands ++ [⟨id, kind, source⟩] ∧
        parse (Message.line (⟨id, kind, source⟩ : Command)) = .ok ⟨id, kind, source⟩) ∧
    ∀ r : Response, r.id < 2 ^ 64 → r.text.breaksLine = false → parse r.line = .ok r := by
  refine ⟨fun _ => readBack_of_lt, fun _ => readBack_of_lt, ?_, fun _ => parse_of_oneLine⟩
  intro κ channel channel' kind source id hsend hid
  have hline : source.breaksLine = false := by
    cases hb : source.breaksLine with
    | false => rfl
    | true => rw [Channel.send_of_breaksLine hb] at hsend; cases hsend
  cases hc : channel.pending.closed with
  | some reason => rw [Channel.send_of_closed hline hc] at hsend; cases hsend
  | none =>
    rw [Channel.send_of_open hline hc] at hsend
    cases hsend
    exact ⟨rfl, parse_of_oneLine hid hline⟩

/-- A source that looks like other lines, an answer with line ends inside that ends with two
carriage returns, and texts that a channel sends and receives. -/
theorem messages_read_back_deceptive :
    let c : Command := ⟨2 ^ 64 - 1, .exec, "0=PASS=1\n1=FAIL=2".toList⟩
    let r : Response := ⟨0, .fail, "a\r\nb=\r\r".toList⟩
    let sent : Command := ⟨0, .eval, "x=1".toList⟩
    let answer : Response := ⟨0, .pass, "=".toList⟩
    parse c.line = .ok c ∧ parse r.line = .ok { r with text := "a\r\nb=\r".toList } ∧
      ((Channel.opened false : Channel Unit).send .eval sent.text).2 = .ok 0 ∧
      parse sent.line = .ok sent ∧ answer.text.breaksLine = false ∧
      parse answer.line = .ok answer := by
  obtain ⟨commands, responses, sends, answers⟩ := messages_read_back
  refine ⟨(commands _ (by decide)).whole.2 (by decide), (responses _ (by decide)).cut _ (by decide),
    rfl, ?_, by decide, answers _ (by decide) (by decide)⟩
  exact (sends Unit (.opened false) _ .eval "x=1".toList 0 rfl (by decide)).2

end Message

end RemoteInterpreter
