import Mathlib.Data.List.TakeWhile
import RemoteInterpreter.Session.Construction
import RemoteInterpreter.Proofs.Naming
import RemoteInterpreter.Proofs.Term

/-!
# The grammar of templates

A template is read from the left as plain characters, doubled braces and slots, and this reading
is the only one. The reader takes the texts that can be read like this and no others. Whatever the
fragments hold, a template comes back from its text; and since it has one fragment more than it
has slots, a filled template is always a draft that can be composed.
-/

namespace RemoteInterpreter

/-! Trimming -/

namespace Text

/-- A text without the blanks around it. -/
inductive Trims : Text → Text → Prop
  | intro {before t after} (left : ∀ c ∈ before, isBlank c = true)
      (right : ∀ c ∈ after, isBlank c = true) (first : ∀ c, t.head? = some c → isBlank c = false)
      (last : ∀ c, t.getLast? = some c → isBlank c = false) : Trims (before ++ t ++ after) t

variable {t u : Text}

theorem dropWhile_isBlank_of_head? (h : ∀ c, t.head? = some c → isBlank c = false) :
    t.dropWhile isBlank = t := by
  cases t with
  | nil => rfl
  | cons c t => exact List.dropWhile_cons_of_neg (by simp [h c rfl])

theorem head?_dropWhile_isBlank {c : Char} (h : (t.dropWhile isBlank).head? = some c) :
    isBlank c = false := by
  have hnot := List.head?_dropWhile_not isBlank t
  rwa [h] at hnot

theorem Trims.trim_eq (h : Trims t u) : trim t = u := by
  cases h with
  | @intro before _ after left right first last =>
    have hleft : trimLeft (before ++ u ++ after) = (u ++ after).dropWhile isBlank := by
      rw [trimLeft, List.append_assoc, List.dropWhile_append_of_pos left]
    have hright : ∀ c ∈ after.reverse, isBlank c = true := fun c hc =>
      right c (List.mem_reverse.1 hc)
    cases u with
    | nil => rw [trim, hleft, List.nil_append, List.dropWhile_eq_nil_iff.2 right]; rfl
    | cons c u =>
      have hfirst := dropWhile_isBlank_of_head? (t := c :: u ++ after) first
      have hlast := dropWhile_isBlank_of_head? (t := (c :: u).reverse)
        (fun d hd => last d (by rwa [List.head?_reverse] at hd))
      rw [trim, hleft, hfirst, trimRight, List.reverse_append,
        List.dropWhile_append_of_pos hright, hlast, List.reverse_reverse]

theorem trims_trim (t : Text) : Trims t (trim t) := by
  have hright := List.takeWhile_append_dropWhile (p := isBlank) (l := (trimLeft t).reverse)
  have hsplit : trim t ++ ((trimLeft t).reverse.takeWhile isBlank).reverse = trimLeft t := by
    rw [trim, trimRight, ← List.reverse_append, hright, List.reverse_reverse]
  have htext : t.takeWhile isBlank ++ trim t ++ ((trimLeft t).reverse.takeWhile isBlank).reverse =
      t := by
    rw [List.append_assoc, hsplit]
    exact List.takeWhile_append_dropWhile
  have h : Trims (t.takeWhile isBlank ++ trim t ++
      ((trimLeft t).reverse.takeWhile isBlank).reverse) (trim t) := by
    refine .intro (fun c => List.mem_takeWhile_imp) (fun c hc => ?_) (fun c hc => ?_) fun c hc => ?_
    · exact List.mem_takeWhile_imp (List.mem_reverse.1 hc)
    · have hhead : (trimLeft t).head? = some c := by rw [← hsplit, List.head?_append, hc]; rfl
      exact head?_dropWhile_isBlank hhead
    · rw [trim, trimRight, List.getLast?_reverse] at hc
      exact head?_dropWhile_isBlank hc
  rwa [htext] at h

theorem trims_self (h : ∀ c ∈ t, isBlank c = false) : Trims t t := by
  have hself : Trims ([] ++ t ++ []) t :=
    .intro (by simp) (by simp) (fun c hc => h c (List.mem_of_head? hc))
      fun c hc => h c (List.mem_of_getLast? hc)
  rwa [List.nil_append, List.append_nil] at hself

end Text

/-! Slots -/

namespace Slot

/-- What may stand between two braces for a slot. -/
inductive Spelled (inside : Text) : Slot → Prop
  | next (trims : Text.Trims inside []) : Spelled inside .next
  | index {digits} (trims : Text.Trims inside digits) (nonempty : digits ≠ [])
      (all : ∀ c ∈ digits, c.isDigit = true) (below : Nat.ofDigitChars 10 digits 0 < 2 ^ 64) :
    Spelled inside (.index (Nat.ofDigitChars 10 digits 0))
  | name {n} (trims : Text.Trims inside n) (identifier : Identifier.isIdentifier n = true) :
    Spelled inside (.name n)

/-- A slot that a template can have. -/
def Admissible : Slot → Prop
  | .next => True
  | .index i => i < 2 ^ 64
  | .name n => Identifier.isIdentifier n = true

instance : DecidablePred Admissible
  | .next => isTrue trivial
  | .index i => inferInstanceAs (Decidable (i < 2 ^ 64))
  | .name n => inferInstanceAs (Decidable (Identifier.isIdentifier n = true))

end Slot

/-! The characters of slots -/

theorem Identifier.toNat_of_isPart {c : Char} (h : isPart c = true) :
    48 ≤ c.toNat ∧ c.toNat ≤ 122 := by
  have halphanum : c.isAlphanum = (c.isUpper || c.isLower || c.isDigit) := rfl
  have hupper : c.isUpper = decide (c.val ≥ 'A'.val ∧ c.val ≤ 'Z'.val) := rfl
  have hlower : c.isLower = (decide (c.val ≥ 'a'.val) && decide (c.val ≤ 'z'.val)) := rfl
  have hdigit : c.isDigit = (decide (c.val ≥ '0'.val) && decide (c.val ≤ '9'.val)) := rfl
  simp only [isPart, halphanum, hupper, hlower, hdigit, Bool.or_eq_true, Bool.and_eq_true,
    decide_eq_true_eq, beq_iff_eq, UInt32.le_iff_toNat_le, ge_iff_le] at h
  have hnat : c.toNat = c.val.toNat := rfl
  rcases h with ((h | h) | h) | rfl
  · have hfirst : 'A'.val.toNat = 65 := rfl
    have hlast : 'Z'.val.toNat = 90 := rfl
    omega
  · have hfirst : 'a'.val.toNat = 97 := rfl
    have hlast : 'z'.val.toNat = 122 := rfl
    omega
  · have hfirst : '0'.val.toNat = 48 := rfl
    have hlast : '9'.val.toNat = 57 := rfl
    omega
  · decide

theorem Identifier.isBlank_of_isPart {c : Char} (h : isPart c = true) : Text.isBlank c = false := by
  have hrange := toNat_of_isPart h
  have apart : ∀ r ∈ Text.blankRanges, r.2 < 48 ∨ 122 < r.1 := by decide
  simp only [Text.isBlank, Text.within, List.any_eq_false, Bool.and_eq_true, decide_eq_true_eq]
  intro r hr hwithin
  have hapart := apart r hr
  omega

theorem Identifier.isPart_of_isDigit {c : Char} (h : c.isDigit = true) : isPart c = true := by
  simp [isPart, Char.isAlphanum, h]

namespace Template

/-- How a template is read from the left. -/
inductive Spelled : Text → Template → Prop
  | empty : Spelled [] ⟨[], []⟩
  | plain {c rest t} (plain : c ≠ '\x7b' ∧ c ≠ '\x7d') (spelled : Spelled rest t) :
    Spelled (c :: rest) (t.push c)
  | doubled {c rest t} (brace : c = '\x7b' ∨ c = '\x7d') (spelled : Spelled rest t) :
    Spelled (c :: c :: rest) (t.push c)
  | slot {inside s rest t} (opens : inside.head? ≠ some '\x7b') (closes : '\x7d' ∉ inside)
      (reads : Slot.Spelled inside s) (spelled : Spelled rest t) :
    Spelled ('\x7b' :: (inside ++ '\x7d' :: rest)) (t.pushSlot s)

variable {inside text rest u : Text} {s : Slot} {t : Template}

theorem slot_of_spelled (h : Slot.Spelled inside s) : slot inside = .ok s := by
  cases h with
  | next trims => simp [slot, trims.trim_eq]
  | @index digits trims nonempty all below =>
    have hall : digits.all Char.isDigit = true := List.all_eq_true.2 all
    have hbelow : Numeral.value digits < indexBound := below
    simp only [slot, trims.trim_eq, List.isEmpty_iff, nonempty, hall, hbelow, ↓reduceIte]
    rfl
  | name trims identifier =>
    rename_i n
    cases n with
    | nil => cases identifier
    | cons c n =>
      have hstart : Identifier.isStart c = true := by
        simp only [Identifier.isIdentifier, Bool.and_eq_true] at identifier
        exact identifier.1
      simp [slot, trims.trim_eq, Term.isDigit_of_isStart hstart, identifier]

theorem slot_eq_ok_iff : slot inside = .ok s ↔ Slot.Spelled inside s := by
  refine ⟨fun h => ?_, slot_of_spelled⟩
  have trims := Text.trims_trim inside
  unfold slot at h
  dsimp only at h
  split at h
  · next hempty =>
    cases h
    rw [List.isEmpty_iff.1 hempty] at trims
    exact .next trims
  · next hne =>
    split at h
    · next hall =>
      split at h
      · next hbelow =>
        cases h
        exact .index trims (by simpa using hne) (List.all_eq_true.1 hall) hbelow
      · cases h
    · split at h
      · next hidentifier =>
        cases h
        exact .name trims hidentifier
      · cases h

/-! Reading from the left -/

/-- One character decides, unless it is a brace that stands there twice. -/
theorem scan_single {c : Char} (h : c = '\x7b' ∨ c = '\x7d' → rest.head? ≠ some c) :
    scan (c :: rest) =
      if c = '\x7b' then scanSlot [] rest
      else if c = '\x7d' then .error .unmatched
      else (scan rest).map (push c) := by
  rw [scan]
  · rintro tail rfl rfl
    exact h (Or.inl rfl) rfl
  · rintro tail rfl rfl
    exact h (Or.inr rfl) rfl

theorem scan_plain {c : Char} (h : c ≠ '\x7b' ∧ c ≠ '\x7d') (rest : Text) :
    scan (c :: rest) = (scan rest).map (push c) := by
  rw [scan_single (fun hc => absurd hc (not_or.2 h)), if_neg h.1, if_neg h.2]

theorem scan_doubled {c : Char} (h : c = '\x7b' ∨ c = '\x7d') (rest : Text) :
    scan (c :: c :: rest) = (scan rest).map (push c) := by
  rcases h with rfl | rfl <;> rw [scan]

theorem scan_open (h : rest.head? ≠ some '\x7b') : scan ('\x7b' :: rest) = scanSlot [] rest := by
  rw [scan_single fun _ => h, if_pos rfl]

theorem scan_unmatched (h : rest.head? ≠ some '\x7d') :
    scan ('\x7d' :: rest) = .error .unmatched := by
  rw [scan_single fun _ => h, if_neg (by decide), if_pos rfl]

/-- A slot ends at the first closing brace. -/
theorem scanSlot_append (h : '\x7d' ∉ inside) (before rest : Text) :
    scanSlot before (inside ++ '\x7d' :: rest) =
      (slot (before.reverse ++ inside)).bind fun s => (scan rest).map (pushSlot s) := by
  induction inside generalizing before with
  | nil =>
    rw [List.nil_append, scanSlot, if_pos rfl, List.append_nil]
    cases slot before.reverse <;> rfl
  | cons c inside ih =>
    rw [List.mem_cons, not_or] at h
    rw [List.cons_append, scanSlot, if_neg (Ne.symm h.1), ih h.2]
    simp

theorem scanSlot_of_not_mem (h : '\x7d' ∉ rest) (before : Text) :
    scanSlot before rest = .error .unclosed := by
  induction rest generalizing before with
  | nil => rw [scanSlot]
  | cons c rest ih =>
    rw [List.mem_cons, not_or] at h
    rw [scanSlot, if_neg (Ne.symm h.1), ih h.2]

theorem scan_of_spelled (h : Spelled text t) : scan text = .ok t := by
  induction h with
  | empty => rw [scan]
  | plain hc _ ih => rw [scan_plain hc, ih]; rfl
  | doubled hc _ ih => rw [scan_doubled hc, ih]; rfl
  | @slot inside s rest t opens closes reads _ ih =>
    have hopens : (inside ++ '\x7d' :: rest).head? ≠ some '\x7b' := by
      cases inside with
      | nil => simp
      | cons c inside => simpa using opens
    rw [scan_open hopens, scanSlot_append closes, List.reverse_nil, List.nil_append,
      slot_of_spelled reads, ih]
    rfl

/-- What comes of the rest of a text comes of its template. -/
theorem exists_of_map {x : Except Fault Template} {f : Template → Template}
    (h : x.map f = .ok t) : ∃ u, x = .ok u ∧ t = f u := by
  cases x with
  | error e => cases h
  | ok u => cases h; exact ⟨u, rfl, rfl⟩

/-- What is read behind an opening brace is a slot up to the first closing brace. -/
theorem exists_slot_of_scan (opens : rest.head? ≠ some '\x7b')
    (h : scan ('\x7b' :: rest) = .ok t) :
    ∃ inside s tail u, rest = inside ++ '\x7d' :: tail ∧ inside.head? ≠ some '\x7b' ∧
      '\x7d' ∉ inside ∧ Slot.Spelled inside s ∧ scan tail = .ok u ∧ t = u.pushSlot s := by
  rw [scan_open opens] at h
  cases hcut : Text.cut? '\x7d' rest with
  | none => rw [scanSlot_of_not_mem (Text.cut?_eq_none_iff.1 hcut)] at h; cases h
  | some halves =>
    obtain ⟨inside, tail⟩ := halves
    obtain ⟨rfl, closes⟩ := Text.cut?_eq_some_iff.1 hcut
    rw [scanSlot_append closes, List.reverse_nil, List.nil_append] at h
    cases hslot : slot inside with
    | error fault => rw [hslot] at h; cases h
    | ok s =>
      rw [hslot] at h
      obtain ⟨u, hu, rfl⟩ := exists_of_map h
      refine ⟨inside, s, tail, u, rfl, ?_, closes, slot_eq_ok_iff.1 hslot, hu, rfl⟩
      cases inside with
      | nil => simp
      | cons c inside => simpa using opens

theorem spelled_of_scan (text : Text) : ∀ t, scan text = .ok t → Spelled text t := by
  -- doubled braces and slots take more than one character, so the induction is on the length
  induction hn : text.length using Nat.strongRecOn generalizing text with
  | _ n ih =>
    intro t h
    cases text with
    | nil => rw [scan] at h; cases h; exact .empty
    | cons c rest =>
      have shorter : ∀ tail, tail.length ≤ rest.length → ∀ u, scan tail = .ok u → Spelled tail u :=
        fun tail hle => ih _ (by rw [← hn, List.length_cons]; omega) tail rfl
      by_cases hplain : c ≠ '\x7b' ∧ c ≠ '\x7d'
      · rw [scan_plain hplain] at h
        obtain ⟨u, hu, rfl⟩ := exists_of_map h
        exact .plain hplain (shorter rest le_rfl u hu)
      have hbrace : c = '\x7b' ∨ c = '\x7d' := by grind
      by_cases hdouble : rest.head? = some c
      · obtain ⟨tail, rfl⟩ := List.head?_eq_some_iff.1 hdouble
        rw [scan_doubled hbrace] at h
        obtain ⟨u, hu, rfl⟩ := exists_of_map h
        exact .doubled hbrace (shorter tail (by simp) u hu)
      rcases hbrace with rfl | rfl
      · obtain ⟨inside, s, tail, u, rfl, opens, closes, reads, hu, rfl⟩ :=
          exists_slot_of_scan hdouble h
        exact .slot opens closes reads (shorter tail (by simp; omega) u hu)
      · rw [scan_unmatched hdouble] at h
        cases h

theorem parse_eq_ok_iff : parse text = .ok t ↔ Spelled text t := by
  have hscan : parse text = .ok t ↔ scan text = .ok t := by
    unfold parse
    cases scan text <;> simp [Except.mapError]
  rw [hscan]
  exact ⟨spelled_of_scan text t, scan_of_spelled⟩

/-! Templates from their own texts -/

/-- The fragments with every brace doubled, and the slots between them. -/
def written : List Text → List Slot → Text
  | [], _ => []
  | fragment :: _, [] => doubled fragment
  | fragment :: fragments, s :: slots => doubled fragment ++ printSlot s ++ written fragments slots

theorem written_eq_print (t : Template) : written t.fragments t.slots = t.print := by
  obtain ⟨opening, rest⟩ := t
  induction rest generalizing opening with
  | nil => simp [fragments, slots, written, print]
  | cons p rest ih =>
    have htail : written (p.2 :: rest.map Prod.snd) (rest.map Prod.fst) =
        doubled p.2 ++ rest.flatMap fun q => printSlot q.1 ++ doubled q.2 := ih p.2
    simp only [fragments, slots, List.map_cons, written, htail, print, List.flatMap_cons,
      List.append_assoc]

theorem Spelled.doubled_append (h : Spelled rest t) (u : Text) :
    Spelled (Template.doubled u ++ rest) { t with opening := u ++ t.opening } := by
  induction u with
  | nil => exact h
  | cons c u ih =>
    rw [Template.doubled.eq_def, List.flatMap_cons, List.append_assoc]
    by_cases hc : c = '\x7b' ∨ c = '\x7d'
    · rw [if_pos hc]
      exact .doubled hc ih
    · rw [if_neg hc]
      exact .plain (not_or.1 hc) ih

/-- A slot without blanks in it. -/
theorem Spelled.printSlot_append (h : Spelled rest t) (hs : s.Admissible) :
    Spelled (printSlot s ++ rest) (t.pushSlot s) := by
  have of_parts : ∀ {inside}, (∀ c ∈ inside, Identifier.isPart c = true) →
      Slot.Spelled inside s → Spelled ('\x7b' :: (inside ++ '\x7d' :: rest)) (t.pushSlot s) := by
    intro inside hparts reads
    refine .slot (fun hhead => ?_) (fun hmem => ?_) reads h
    · exact absurd (hparts _ (List.mem_of_head? hhead)) (by decide)
    · exact absurd (hparts _ hmem) (by decide)
  have hblank : ∀ {inside : Text}, (∀ c ∈ inside, Identifier.isPart c = true) →
      Text.Trims inside inside := fun hparts =>
    Text.trims_self fun c hc => Identifier.isBlank_of_isPart (hparts c hc)
  cases s with
  | next =>
    have hparts : ∀ c ∈ ([] : Text), Identifier.isPart c = true := by simp
    exact of_parts hparts (.next (hblank hparts))
  | index i =>
    have hdigits : ∀ c ∈ Numeral.write i, c.isDigit = true := fun c => Numeral.isDigit_of_mem_write
    have hparts := fun c hc => Identifier.isPart_of_isDigit (hdigits c hc)
    have hvalue : Nat.ofDigitChars 10 (Numeral.write i) 0 = i := Numeral.value_write i
    have reads : Slot.Spelled (Numeral.write i) (.index _) :=
      .index (hblank hparts) Nat.toDigits_ne_nil hdigits (by rw [hvalue]; exact hs)
    rw [hvalue] at reads
    simpa [printSlot] using of_parts hparts reads
  | name n =>
    have hparts : ∀ c ∈ n, Identifier.isPart c = true := fun c => Identifier.isPart_of_mem hs
    simpa [printSlot] using of_parts hparts (.name (hblank hparts) hs)

theorem spelled_print (h : ∀ s ∈ t.slots, s.Admissible) : Spelled t.print t := by
  obtain ⟨opening, rest⟩ := t
  have hrest : Spelled (rest.flatMap fun p => printSlot p.1 ++ doubled p.2) ⟨[], rest⟩ := by
    induction rest with
    | nil => exact .empty
    | cons p rest ih =>
      have htail := ih fun s hs => h s (List.mem_cons_of_mem _ hs)
      have hslot := (htail.doubled_append p.2).printSlot_append (h p.1 List.mem_cons_self)
      simpa [pushSlot] using hslot
  simpa [print] using hrest.doubled_append opening

end Template

/-! Filled templates -/

namespace Template

variable {text : Text} {d : Draft}

theorem balanced_of_draft {args : List Arg} (h : draft text args = .ok d) : d.Balanced := by
  unfold draft at h
  split at h
  · cases h
  · split at h
    · cases h
    · next t _ _ hfilled =>
      cases h
      rw [Draft.Balanced, length_fragments, (fill_spec hfilled).1]

theorem balanced_of_namedDraft {args : List (Text × Arg)} (h : namedDraft text args = .ok d) :
    d.Balanced := by
  unfold namedDraft at h
  split at h
  · cases h
  · split at h
    · cases h
    · next t _ _ hfilled =>
      cases h
      rw [Draft.Balanced, length_fragments, (fillNamed_spec hfilled).1]

end Template

namespace Construction

/-- The operations that fill a template. -/
inductive OfTemplate : Construction → Prop
  | format {i template args} : OfTemplate (.format i template args)
  | formatNamed {i template args} : OfTemplate (.formatNamed i template args)
  | raw {h template args} : OfTemplate (.raw h template args)

variable {c : Construction}

theorem OfTemplate.balanced (hc : c.OfTemplate) {d : Draft} (h : c.draft = .ok d) : d.Balanced := by
  cases hc with
  | format => exact Template.balanced_of_draft h
  | formatNamed => exact Template.balanced_of_namedDraft h
  | @raw k template args =>
    obtain ⟨inner, hdraft, rfl⟩ := map_eq_ok_iff.1 h
    have hinner := Template.balanced_of_draft hdraft
    simpa [Draft.Balanced, Draft.onHandle] using hinner

/-- What is wrong with a template is never the number of its fragments. -/
theorem OfTemplate.draft_ne_fragmentCount (hc : c.OfTemplate) (f a : Nat) :
    c.draft ≠ .error (.fragmentCount f a) := by
  have template_only : ∀ {text args}, Template.draft text args ≠ .error (.fragmentCount f a) := by
    intro text args
    unfold Template.draft
    split
    · simp
    · split <;> simp
  cases hc with
  | format => exact template_only
  | formatNamed =>
    simp only [draft, Template.namedDraft]
    split
    · simp
    · split <;> simp
  | @raw k text args =>
    simp only [draft, Draft.raw]
    intro h
    cases hdraft : Template.draft text args with
    | error e => rw [hdraft] at h; cases h; exact template_only hdraft
    | ok inner => rw [hdraft] at h; cases h

end Construction

theorem Program.construct_ne_fragmentCount {c : Construction} (hc : c.OfTemplate) (w : Program)
    (running : Bool) (f a : Nat) : (w.construct running c).2 ≠ .error (.fragmentCount f a) := by
  unfold construct
  split
  · next e hdraft =>
    intro h
    cases h
    exact hc.draft_ne_fragmentCount f a hdraft
  · next d hdraft =>
    have hcompose := Expression.compose_ne_fragmentCount (hc.balanced hdraft)
    unfold Session.build
    split
    · next e hbuild =>
      intro h
      cases h
      split at hbuild
      · next hx => cases hbuild; exact hcompose _ f a hx
      · cases hbuild
    · simp

namespace Template

/-- The reader of templates takes the texts of the grammar and no others, and gives one fragment
more than slots. It gives the fragments and slots back from which a text was written. So no
operation on a template finds a wrong number of fragments. -/
theorem reads_exactly_templates :
    (∀ text t, parse text = .ok t ↔ Spelled text t) ∧
    (∀ text t, parse text = .ok t → t.fragments.length = t.slots.length + 1) ∧
    (∀ (fragments : List Text) (slots : List Slot), fragments.length = slots.length + 1 →
      (∀ s ∈ slots, s.Admissible) →
      ∃ t, parse (written fragments slots) = .ok t ∧ t.fragments = fragments ∧ t.slots = slots) ∧
    ∀ (w : Program) (running : Bool) (c : Construction), c.OfTemplate →
      ∀ f a, (w.construct running c).2 ≠ .error (.fragmentCount f a) := by
  refine ⟨fun _ _ => parse_eq_ok_iff, fun _ t _ => t.length_fragments, ?_,
    fun w running _ hc => w.construct_ne_fragmentCount hc running⟩
  intro fragments slots hlength hslots
  match fragments, hlength with
  | opening :: behind, hlength =>
    have hbehind : slots.length = behind.length := by simpa using hlength.symm
    have hfragments : (Template.mk opening (slots.zip behind)).fragments = opening :: behind :=
      congrArg (opening :: ·) (List.map_snd_zip hbehind.ge)
    have hslot : (Template.mk opening (slots.zip behind)).slots = slots :=
      List.map_fst_zip hbehind.le
    refine ⟨⟨opening, slots.zip behind⟩, parse_eq_ok_iff.2 ?_, hfragments, hslot⟩
    have hprint := written_eq_print ⟨opening, slots.zip behind⟩
    rw [hfragments, hslot] at hprint
    rw [hprint]
    exact spelled_print (by rw [hslot]; exact hslots)

/-- Fragments that end and begin with braces around every kind of slot, and a template that is
filled behind a handle. -/
theorem reads_exactly_templates_braces :
    let fragments := ["\x7b".toList, "\x7d\x7d".toList, [], "\x7b\x7d".toList]
    let slots := [.next, .index 7, .name "_a".toList]
    (∀ s ∈ slots, Slot.Admissible s) ∧
      written fragments slots =
        "\x7b\x7b\x7b\x7d\x7d\x7d\x7d\x7d\x7b7\x7d\x7b_a\x7d\x7b\x7b\x7d\x7d".toList ∧
      (∃ t, parse (written fragments slots) = .ok t ∧ t.fragments = fragments ∧ t.slots = slots) ∧
      ∀ (w : Program) (h : Handle), (w.construct true (.raw h "[\x7b\x7d]".toList [.null])).2 ≠
        .error (.fragmentCount 3 2) := by
  obtain ⟨-, -, reads, builds⟩ := reads_exactly_templates
  exact ⟨by decide, by decide, reads _ _ rfl (by decide), fun w _ => builds w true _ .raw 3 2⟩

end Template

end RemoteInterpreter
