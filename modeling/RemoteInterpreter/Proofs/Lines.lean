import RemoteInterpreter.Proofs.Rendering

/-!
# Expressions on one line

Literals keep to their line whatever they hold, and so do numbers and variables. A rendered
argument breaks a line only where a text was pasted that does.
-/

namespace RemoteInterpreter

namespace Text

variable {t : Text}

@[simp] theorem breaksLine_cons (c : Char) (t : Text) :
    breaksLine (c :: t) = (c == '\n' || c == '\r' || breaksLine t) := rfl

theorem breaksLine_iff : t.breaksLine = true ↔ '\n' ∈ t ∨ '\r' ∈ t := by
  rw [← Bool.not_eq_false, breaksLine_eq_false_iff, not_and_or, not_not, not_not]

theorem breaksLine_of_subset {u : Text} (h : t.breaksLine = false) (hsub : ∀ c ∈ u, c ∈ t) :
    u.breaksLine = false := by
  rw [breaksLine_eq_false_iff] at h ⊢
  exact ⟨fun hmem => h.1 (hsub _ hmem), fun hmem => h.2 (hsub _ hmem)⟩

theorem breaksLine_take (h : t.breaksLine = false) (n : Nat) : breaksLine (t.take n) = false :=
  breaksLine_of_subset h fun _ => List.mem_of_mem_take

theorem breaksLine_drop (h : t.breaksLine = false) (n : Nat) : breaksLine (t.drop n) = false :=
  breaksLine_of_subset h fun _ => List.mem_of_mem_drop

theorem breaksLine_replicate {c : Char} (hc : (c == '\n' || c == '\r') = false) (n : Nat) :
    breaksLine (List.replicate n c) = false := by
  simp [breaksLine, hc]

end Text

/-! Literals -/

@[simp] theorem Numeral.breaksLine_write (n : Nat) : (write n).breaksLine = false :=
  Text.breaksLine_eq_false_iff.2
    ⟨Message.not_mem_write (by decide), Message.not_mem_write (by decide)⟩

@[simp] theorem Numeral.breaksLine_writeInt (n : Int) : (writeInt n).breaksLine = false := by
  cases n <;> simp [writeInt]

theorem Identifier.breaksLine_of_isName {t : Text} (h : isName t = true) :
    t.breaksLine = false := breaksLine_of_isIdentifier (Bool.and_eq_true_iff.1 h).1

@[simp] theorem Literal.breaksLine_quote (s : Text) : (quote s).breaksLine = false :=
  Text.breaksLine_eq_false_iff.2
    ⟨fun h => absurd (keepsLine_of_mem_quote h) (by decide),
      fun h => absurd (keepsLine_of_mem_quote h) (by decide)⟩

namespace Binary64

theorem Decimal.breaksLine_write (d : Decimal) : (d.write layout).breaksLine = false := by
  have hdigits := Numeral.breaksLine_write d.digits
  have htake := Text.breaksLine_take hdigits
  have hdrop := Text.breaksLine_drop hdigits
  have hzeros := Text.breaksLine_replicate (c := '0') (by decide)
  unfold Decimal.write
  split
  · unfold positional
    dsimp only
    split
    · simp [hzeros]
    split
    · simp [hzeros, layout]
    · simp only [Text.breaksLine_append, Text.breaksLine_cons, htake, hdrop]
      rfl
  · unfold scientific
    dsimp only
    split <;> split <;>
      simp only [Text.breaksLine_append, Text.breaksLine_cons, Text.breaksLine_nil, htake, hdrop,
        Numeral.breaksLine_write] <;> rfl

theorem breaksLine_write (x : Binary64) : x.write.breaksLine = false := by
  have hmagnitude : Text.breaksLine (if x.isZero then '0' :: layout.wholeTail
      else (x.shortest layout.tie).write layout) = false := by
    split
    · rfl
    · exact Decimal.breaksLine_write _
  unfold write writeIn
  dsimp only
  split
  · rw [Text.breaksLine_cons, hmagnitude]
    rfl
  · exact hmagnitude

end Binary64

@[simp] theorem Literal.breaksLine_float (x : Binary64) : (float x).breaksLine = false := by
  unfold float
  split
  · decide
  split
  · split <;> decide
  · exact x.breaksLine_write

/-! Arguments -/

namespace Arg

mutual

/-- The pasted texts inside an argument, depth first. -/
def raws : Arg → List Text
  | .list items => rawsOfItems items
  | .tuple items => rawsOfItems items
  | .map entries => rawsOfEntries entries
  | .raw source => [source]
  | _ => []

def rawsOfItems : List Arg → List Text
  | [] => []
  | item :: rest => raws item ++ rawsOfItems rest

def rawsOfEntries : List (Arg × Arg) → List Text
  | [] => []
  | (key, value) :: rest => raws key ++ raws value ++ rawsOfEntries rest

end

mutual

/-- Only pasted text breaks a line. -/
theorem breaksLine_render (a : Arg) (hnamed : a.Named) :
    a.render.breaksLine = a.raws.any Text.breaksLine := by
  match a with
  | .null => rfl
  | .bool true => rfl
  | .bool false => rfl
  | .int n => simp [render, raws]
  | .float x => simp [render, raws]
  | .str s => simp [render, raws]
  | .list items =>
    have hitems := breaksLine_renderItems items hnamed
    simp [render, raws, hitems]
  | .tuple [] => rfl
  | .tuple [item] =>
    have hitem := breaksLine_render item (by simpa [Named, handles, handlesOfItems] using hnamed)
    simp [render, raws, rawsOfItems, hitem]
  | .tuple (item :: next :: items) =>
    have hitems := breaksLine_renderItems (item :: next :: items) hnamed
    simp [render, raws, hitems]
  | .map entries =>
    have hentries := breaksLine_renderEntries entries hnamed
    simp [render, raws, hentries]
  | .handle h =>
    exact Identifier.breaksLine_of_isName (hnamed h List.mem_cons_self)
  | .raw source => simp [render, raws]

theorem breaksLine_renderItems (items : List Arg)
    (hnamed : ∀ h ∈ handlesOfItems items, Identifier.isName h.name = true) :
    (renderItems items).breaksLine = (rawsOfItems items).any Text.breaksLine := by
  match items with
  | [] => rfl
  | [item] =>
    obtain ⟨hitem, -⟩ := handlesOfItems_cons hnamed
    simp [renderItems, rawsOfItems, breaksLine_render item hitem]
  | item :: next :: items =>
    obtain ⟨hitem, hnext⟩ := handlesOfItems_cons hnamed
    have htail := breaksLine_renderItems (next :: items) hnext
    rw [renderItems, rawsOfItems]
    simp [breaksLine_render item hitem, htail]
    · exact List.cons_ne_nil _ _

theorem breaksLine_renderEntries (entries : List (Arg × Arg))
    (hnamed : ∀ h ∈ handlesOfEntries entries, Identifier.isName h.name = true) :
    (renderEntries entries).breaksLine = (rawsOfEntries entries).any Text.breaksLine := by
  match entries with
  | [] => rfl
  | [(key, value)] =>
    obtain ⟨hkey, hvalue, -⟩ := handlesOfEntries_cons hnamed
    simp [renderEntries, rawsOfEntries, breaksLine_render key hkey, breaksLine_render value hvalue]
  | (key, value) :: next :: entries =>
    obtain ⟨hkey, hvalue, hnext⟩ := handlesOfEntries_cons hnamed
    have htail := breaksLine_renderEntries (next :: entries) hnext
    have hrender : renderEntries ((key, value) :: next :: entries) =
        render key ++ ':' :: ' ' :: render value ++ ',' :: renderEntries (next :: entries) := rfl
    rw [hrender, rawsOfEntries]
    simp [breaksLine_render key hkey, breaksLine_render value hvalue, htail]

end

mutual

theorem Plain.raws : ∀ a : Arg, a.Plain → a.raws = []
  | .null, _ | .bool _, _ | .int _, _ | .str _, _ | .handle _, _ => rfl
  | .list items, .list all => Plain.rawsOfItems items all
  | .tuple items, .tuple all => Plain.rawsOfItems items all
  | .map entries, .map keys values => Plain.rawsOfEntries entries keys values

theorem Plain.rawsOfItems : ∀ items : List Arg, (∀ item ∈ items, item.Plain) →
    Arg.rawsOfItems items = []
  | [], _ => rfl
  | item :: items, all => by
    rw [Arg.rawsOfItems, Plain.raws item (all _ List.mem_cons_self),
      Plain.rawsOfItems items fun i hi => all i (List.mem_cons_of_mem _ hi)]
    rfl

theorem Plain.rawsOfEntries : ∀ entries : List (Arg × Arg), (∀ e ∈ entries, e.1.Plain) →
    (∀ e ∈ entries, e.2.Plain) → Arg.rawsOfEntries entries = []
  | [], _, _ => rfl
  | (key, value) :: entries, keys, values => by
    rw [Arg.rawsOfEntries, Plain.raws key (keys _ List.mem_cons_self),
      Plain.raws value (values _ List.mem_cons_self),
      Plain.rawsOfEntries entries (fun e he => keys e (List.mem_cons_of_mem _ he))
        fun e he => values e (List.mem_cons_of_mem _ he)]
    rfl

end

end Arg

/-- An expression is on one line if its fragments are, and the texts that were pasted. -/
theorem Expression.breaksLine_interleave {fragments : List Text} {args : List Arg}
    (hlength : fragments.length = args.length + 1)
    (hnamed : ∀ h ∈ Arg.handlesOfItems args, Identifier.isName h.name = true) :
    (interleave fragments args).breaksLine =
      (fragments.any Text.breaksLine || (Arg.rawsOfItems args).any Text.breaksLine) := by
  induction args generalizing fragments with
  | nil =>
    match fragments, hlength with
    | [fragment], _ => simp [interleave, Arg.rawsOfItems]
  | cons arg args ih =>
    match fragments, hlength with
    | fragment :: fragments, hlength =>
      obtain ⟨harg, hargs⟩ := Arg.handlesOfItems_cons hnamed
      have hshorter : fragments.length = args.length + 1 := by simpa using hlength
      have hrest := ih hshorter hargs
      simp only [interleave, Arg.rawsOfItems, Text.breaksLine_append, hrest,
        Arg.breaksLine_render arg harg, List.any_cons, List.any_append]
      ac_rfl

end RemoteInterpreter
