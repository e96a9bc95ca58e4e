import RemoteInterpreter.Text.Utf8

/-!
# Encoded text

Text comes back from its octets as it was. Of text that is cut off the beginning comes back, and
a replacement if a character was cut. A line feed is one octet and is never a part of another
character, so whatever stands before it reads as it would by itself.
-/

namespace RemoteInterpreter.Text

variable {a b c d : UInt8} (rest : Octets)

theorem continues_iff : continues b = true ↔ 128 ≤ b.toNat ∧ b.toNat ≤ 191 := by
  simp [continues, UInt8.le_iff_toNat_le]

theorem secondOfThree_iff : secondOfThree a b = true ↔
    128 ≤ b.toNat ∧ b.toNat ≤ 191 ∧ (a.toNat = 224 → 160 ≤ b.toNat) ∧
      (a.toNat = 237 → b.toNat ≤ 159) := by
  unfold secondOfThree
  split
  · next h => simp [h, UInt8.le_iff_toNat_le]; omega
  · next h =>
    split
    · next h' => simp [h', UInt8.le_iff_toNat_le]; omega
    · next h' =>
      rw [← UInt8.toNat_inj] at h h'
      rw [continues_iff]
      simp at h h'
      simp [h, h']

theorem secondOfFour_iff : secondOfFour a b = true ↔
    128 ≤ b.toNat ∧ b.toNat ≤ 191 ∧ (a.toNat = 240 → 144 ≤ b.toNat) ∧
      (a.toNat = 244 → b.toNat ≤ 143) := by
  unfold secondOfFour
  split
  · next h => simp [h, UInt8.le_iff_toNat_le]; omega
  · next h =>
    split
    · next h' => simp [h', UInt8.le_iff_toNat_le]; omega
    · next h' =>
      rw [← UInt8.toNat_inj] at h h'
      rw [continues_iff]
      simp at h h'
      simp [h, h']

/-! One character, by the number of its octets -/

theorem lead_two (h : 194 ≤ a.toNat ∧ a.toNat ≤ 223) : ¬ a < 128 ∧ 194 ≤ a ∧ a ≤ 223 := by
  simp only [UInt8.lt_iff_toNat_lt, UInt8.le_iff_toNat_le, UInt8.reduceToNat]
  omega

theorem lead_three (h : 224 ≤ a.toNat ∧ a.toNat ≤ 239) :
    ¬ a < 128 ∧ ¬ (194 ≤ a ∧ a ≤ 223) ∧ 224 ≤ a ∧ a ≤ 239 := by
  simp only [UInt8.lt_iff_toNat_lt, UInt8.le_iff_toNat_le, UInt8.reduceToNat]
  omega

theorem lead_four (h : 240 ≤ a.toNat ∧ a.toNat ≤ 244) :
    ¬ a < 128 ∧ ¬ (194 ≤ a ∧ a ≤ 223) ∧ ¬ (224 ≤ a ∧ a ≤ 239) ∧ 240 ≤ a ∧ a ≤ 244 := by
  simp only [UInt8.lt_iff_toNat_lt, UInt8.le_iff_toNat_le, UInt8.reduceToNat]
  omega

theorem decodeLossy_one (ha : a.toNat < 128) :
    decodeLossy (a :: rest) = Char.ofNat a.toNat :: decodeLossy rest := by
  have h : a < 128 := by simpa [UInt8.lt_iff_toNat_lt] using ha
  rw [decodeLossy.eq_def]
  simp [h]

theorem decodeLossy_two (lead : 194 ≤ a.toNat ∧ a.toNat ≤ 223) (hb : continues b = true) :
    decodeLossy (a :: b :: rest) =
      Char.ofNat (a.toNat % 32 * 64 + payload b) :: decodeLossy rest := by
  rw [decodeLossy.eq_def]
  simp [lead_two lead, hb]

theorem decodeLossy_three (lead : 224 ≤ a.toNat ∧ a.toNat ≤ 239)
    (hb : secondOfThree a b = true) (hc : continues c = true) :
    decodeLossy (a :: b :: c :: rest) =
      Char.ofNat ((a.toNat % 16 * 64 + payload b) * 64 + payload c) :: decodeLossy rest := by
  rw [decodeLossy.eq_def]
  simp [lead_three lead, hb, hc]

theorem decodeLossy_four (lead : 240 ≤ a.toNat ∧ a.toNat ≤ 244)
    (hb : secondOfFour a b = true) (hc : continues c = true) (hd : continues d = true) :
    decodeLossy (a :: b :: c :: d :: rest) =
      Char.ofNat (((a.toNat % 8 * 64 + payload b) * 64 + payload c) * 64 + payload d) ::
        decodeLossy rest := by
  rw [decodeLossy.eq_def]
  simp [lead_four lead, hb, hc, hd]

theorem toNat_ofNat_of_lt {n : Nat} (h : n < 256) : (UInt8.ofNat n).toNat = n := by
  simp; omega

/-- The octets of a character, by their number. -/
inductive Encoded (ch : Char) : Octets → Prop
  | one {a : UInt8} (lead : a.toNat < 128) (value : Char.ofNat a.toNat = ch) : Encoded ch [a]
  | two {a b : UInt8} (lead : 194 ≤ a.toNat ∧ a.toNat ≤ 223) (second : continues b = true)
      (value : Char.ofNat (a.toNat % 32 * 64 + payload b) = ch) : Encoded ch [a, b]
  | three {a b c : UInt8} (lead : 224 ≤ a.toNat ∧ a.toNat ≤ 239) (second : secondOfThree a b = true)
      (third : continues c = true)
      (value : Char.ofNat ((a.toNat % 16 * 64 + payload b) * 64 + payload c) = ch) :
    Encoded ch [a, b, c]
  | four {a b c d : UInt8} (lead : 240 ≤ a.toNat ∧ a.toNat ≤ 244) (second : secondOfFour a b = true)
      (third : continues c = true) (fourth : continues d = true)
      (value : Char.ofNat
        (((a.toNat % 8 * 64 + payload b) * 64 + payload c) * 64 + payload d) = ch) :
    Encoded ch [a, b, c, d]

theorem encoded_char (c : Char) : Encoded c (String.utf8EncodeChar c) := by
  have hc : Char.ofNat c.val.toNat = c := Char.ofNat_toNat c
  have hvalid : c.val.toNat < 55296 ∨ 57343 < c.val.toNat ∧ c.val.toNat < 1114112 := c.valid
  unfold String.utf8EncodeChar
  generalize c.val.toNat = v at hc hvalid
  dsimp only
  split
  · next h =>
    have ha := toNat_ofNat_of_lt (n := v) (by omega)
    exact .one (by omega) (by rw [ha, hc])
  · split
    · next h h' =>
      have ha := toNat_ofNat_of_lt (n := v / 64 % 32 + 192) (by omega)
      have hb := toNat_ofNat_of_lt (n := v % 64 + 128) (by omega)
      have hv : (v / 64 % 32 + 192) % 32 * 64 + (v % 64 + 128) % 64 = v := by omega
      exact .two (by omega) (continues_iff.2 (by omega)) (by rw [payload, ha, hb, hv, hc])
    · split
      · next h h' h'' =>
        have ha := toNat_ofNat_of_lt (n := v / 4096 % 16 + 224) (by omega)
        have hb := toNat_ofNat_of_lt (n := v / 64 % 64 + 128) (by omega)
        have hd := toNat_ofNat_of_lt (n := v % 64 + 128) (by omega)
        have hv : ((v / 4096 % 16 + 224) % 16 * 64 + (v / 64 % 64 + 128) % 64) * 64 +
            (v % 64 + 128) % 64 = v := by omega
        exact .three (by omega) (secondOfThree_iff.2 (by omega)) (continues_iff.2 (by omega))
          (by rw [payload, payload, ha, hb, hd, hv, hc])
      · next h h' h'' =>
        have ha := toNat_ofNat_of_lt (n := v / 262144 % 8 + 240) (by omega)
        have hb := toNat_ofNat_of_lt (n := v / 4096 % 64 + 128) (by omega)
        have hd := toNat_ofNat_of_lt (n := v / 64 % 64 + 128) (by omega)
        have he := toNat_ofNat_of_lt (n := v % 64 + 128) (by omega)
        have hv : (((v / 262144 % 8 + 240) % 8 * 64 + (v / 4096 % 64 + 128) % 64) * 64 +
            (v / 64 % 64 + 128) % 64) * 64 + (v % 64 + 128) % 64 = v := by omega
        exact .four (by omega) (secondOfFour_iff.2 (by omega)) (continues_iff.2 (by omega))
          (continues_iff.2 (by omega)) (by rw [payload, payload, payload, ha, hb, hd, he, hv, hc])

/-- The octets of a character read as this character. -/
theorem decodeLossy_char (c : Char) :
    decodeLossy (String.utf8EncodeChar c ++ rest) = c :: decodeLossy rest := by
  have h := encoded_char c
  generalize String.utf8EncodeChar c = octets at h
  cases h with
  | one lead value => exact (decodeLossy_one rest lead).trans (by rw [value])
  | two lead second value =>
    exact (decodeLossy_two rest lead second).trans (by rw [value])
  | three lead second third value =>
    exact (decodeLossy_three rest lead second third).trans (by rw [value])
  | four lead second third fourth value =>
    exact (decodeLossy_four rest lead second third fourth).trans (by rw [value])

theorem decodeLossy_encode_append (t : Text) :
    decodeLossy (encode t ++ rest) = t ++ decodeLossy rest := by
  induction t with
  | nil => rfl
  | cons c t ih =>
    have hcons : encode (c :: t) ++ rest = String.utf8EncodeChar c ++ (encode t ++ rest) :=
      List.append_assoc _ _ _
    rw [hcons, decodeLossy_char, ih, List.cons_append]

@[simp] theorem decodeLossy_encode (t : Text) : decodeLossy (encode t) = t := by
  simpa using decodeLossy_encode_append [] t

/-! Text that is cut off -/

/-- Some octets of a character, but not all of them. -/
def Broken (part : Octets) (c : Char) : Prop :=
  part <+: String.utf8EncodeChar c ∧ part ≠ [] ∧ part ≠ String.utf8EncodeChar c

/-- Whatever was there of the character is replaced. -/
theorem decodeLossy_broken {part : Octets} {c : Char} (h : Broken part c) :
    decodeLossy part = [replacement] := by
  obtain ⟨hpart, hne, hall⟩ := h
  have hc := encoded_char c
  generalize String.utf8EncodeChar c = octets at hc hpart hall
  cases hc with
  | one lead =>
    simp only [List.prefix_cons_iff, List.prefix_nil] at hpart
    grind
  | @two a b lead second =>
    have hcases : part = [a] := by
      simp only [List.prefix_cons_iff, List.prefix_nil] at hpart
      grind
    rw [hcases, decodeLossy.eq_def]
    simp [lead_two lead]
  | @three a b c lead second third =>
    have hcases : part = [a] ∨ part = [a, b] := by
      simp only [List.prefix_cons_iff, List.prefix_nil] at hpart
      grind
    rcases hcases with rfl | rfl <;> rw [decodeLossy.eq_def] <;> simp [lead_three lead, second]
  | @four a b c d lead second third fourth =>
    have hcases : part = [a] ∨ part = [a, b] ∨ part = [a, b, c] := by
      simp only [List.prefix_cons_iff, List.prefix_nil] at hpart
      grind
    rcases hcases with rfl | rfl | rfl <;> rw [decodeLossy.eq_def] <;>
      simp [lead_four lead, second, third]

/-- A character of one octet is there or not. -/
theorem not_broken_of_lt {part : Octets} {c : Char} (h : c.val.toNat < 128) : ¬ Broken part c := by
  rintro ⟨hpart, hne, hall⟩
  have hone : String.utf8EncodeChar c = [UInt8.ofNat c.val.toNat] := by
    unfold String.utf8EncodeChar
    dsimp only
    rw [if_pos (by omega)]
  rw [hone] at hpart hall
  simp only [List.prefix_cons_iff, List.prefix_nil] at hpart
  grind

/-- What has come of an encoded text are whole characters, and perhaps some octets of the next. -/
theorem split_of_prefix {octets : Octets} {t : Text} (h : octets <+: encode t) :
    ∃ (before after : Text) (part : Octets), t = before ++ after ∧ octets = encode before ++ part ∧
      (part = [] ∨ ∃ c rest, after = c :: rest ∧ Broken part c) := by
  induction t generalizing octets with
  | nil => exact ⟨[], [], [], rfl, List.prefix_nil.1 h, Or.inl rfl⟩
  | cons c t ih =>
    have hcons : encode (c :: t) = String.utf8EncodeChar c ++ encode t := rfl
    rw [hcons] at h
    rcases List.prefix_or_prefix_of_prefix h (List.prefix_append _ _) with hpart | ⟨rest, rfl⟩
    · by_cases hnil : octets = []
      · exact ⟨[], c :: t, [], rfl, hnil, Or.inl rfl⟩
      · by_cases hall : octets = String.utf8EncodeChar c
        · exact ⟨[c], t, [], rfl, by simp [encode, hall], Or.inl rfl⟩
        · exact ⟨[], c :: t, octets, rfl, rfl, Or.inr ⟨c, t, rfl, hpart, hnil, hall⟩⟩
    · rw [List.prefix_append_right_inj] at h
      obtain ⟨before, after, part, rfl, rfl, hpart⟩ := ih h
      exact ⟨c :: before, after, part, rfl, (List.append_assoc _ _ _).symm, hpart⟩

/-- It reads as the beginning of the text, and perhaps a replacement. -/
theorem decodeLossy_of_prefix {octets : Octets} {t : Text} (h : octets <+: encode t) :
    ∃ before : Text, before <+: t ∧
      (decodeLossy octets = before ∨ decodeLossy octets = before ++ [replacement]) := by
  obtain ⟨before, after, part, rfl, rfl, rfl | ⟨c, rest, -, hbroken⟩⟩ := split_of_prefix h
  · exact ⟨before, List.prefix_append _ _, Or.inl (by simp)⟩
  · refine ⟨before, List.prefix_append _ _, Or.inr ?_⟩
    rw [decodeLossy_encode_append, decodeLossy_broken hbroken]

/-! Line feeds -/

theorem encode_lineFeed : encode ['\n'] = [10] := by decide

theorem decodeLossy_lineFeed : decodeLossy (10 :: rest) = '\n' :: decodeLossy rest :=
  decodeLossy_one rest (by decide)

theorem continues_lineFeed : continues 10 = false := by decide

theorem secondOfThree_lineFeed (a : UInt8) : secondOfThree a 10 = false := by
  rw [Bool.eq_false_iff, ne_eq, secondOfThree_iff]
  simp

theorem secondOfFour_lineFeed (a : UInt8) : secondOfFour a 10 = false := by
  rw [Bool.eq_false_iff, ne_eq, secondOfFour_iff]
  simp

/-- A line feed ends whatever character was under way. -/
theorem decodeLossy_append_lineFeed (xs ys : Octets) :
    decodeLossy (xs ++ 10 :: ys) = decodeLossy xs ++ '\n' :: decodeLossy ys := by
  fun_induction decodeLossy xs
  case case1 => exact decodeLossy_lineFeed ys
  case case5 ih | case9 ih | case10 ih | case15 ih | case16 ih | case17 ih =>
    -- the octet that did not fit is read again
    rw [List.cons_append] at ih
    rw [List.cons_append, decodeLossy.eq_def]
    simp [*]
  all_goals
    rw [List.cons_append, decodeLossy.eq_def]
    simp [*, decodeLossy_lineFeed, continues_lineFeed, secondOfThree_lineFeed,
      secondOfFour_lineFeed]

theorem eq_of_ofNat_eq_lineFeed {n : Nat} (h : Char.ofNat n = '\n') : n = 10 := by
  by_cases hv : n.isValidChar
  · rw [Char.ofNat, dif_pos hv] at h
    exact congrArg (fun c : Char => c.val.toNat) h
  · rw [Char.ofNat, dif_neg hv] at h
    cases h

theorem lineFeed_ne_ofNat {n : Nat} (h : 128 ≤ n) : '\n' ≠ Char.ofNat n := by
  intro heq
  have hn := eq_of_ofNat_eq_lineFeed heq.symm
  omega

theorem lineFeed_ne_replacement : '\n' ≠ replacement := by decide

/-- Only the line feed itself reads as one. -/
theorem mem_of_mem_decodeLossy {xs : Octets} (h : '\n' ∈ decodeLossy xs) : 10 ∈ xs := by
  fun_induction decodeLossy xs
  case case1 => simp at h
  case case2 a rest _ ih =>
    rcases List.mem_cons.1 h with h | h
    · have ha := eq_of_ofNat_eq_lineFeed h.symm
      have ha : a = 10 := by rw [← UInt8.toNat_inj, ha]; rfl
      simp [ha]
    · exact List.mem_cons_of_mem _ (ih h)
  case case4 a _ hlead b _ hb ih =>
    simp only [Bool.and_eq_true, decide_eq_true_eq, UInt8.le_iff_toNat_le,
      UInt8.reduceToNat] at hlead
    rcases List.mem_cons.1 h with h | h
    · exact absurd h (lineFeed_ne_ofNat (by omega))
    · simp [ih h]
  case case8 a _ _ hlead b hb c _ hc ih =>
    simp only [Bool.and_eq_true, decide_eq_true_eq, UInt8.le_iff_toNat_le,
      UInt8.reduceToNat] at hlead
    rw [secondOfThree_iff] at hb
    rcases List.mem_cons.1 h with h | h
    · exact absurd h (lineFeed_ne_ofNat (by unfold payload; omega))
    · simp [ih h]
  case case14 a _ _ _ hlead b hb c hc d _ hd ih =>
    simp only [Bool.and_eq_true, decide_eq_true_eq, UInt8.le_iff_toNat_le,
      UInt8.reduceToNat] at hlead
    rw [secondOfFour_iff] at hb
    rcases List.mem_cons.1 h with h | h
    · exact absurd h (lineFeed_ne_ofNat (by unfold payload; omega))
    · simp [ih h]
  case case5 ih | case9 ih | case10 ih | case15 ih | case16 ih | case17 ih | case18 ih =>
    rcases List.mem_cons.1 h with h | h
    · exact absurd h lineFeed_ne_replacement
    · have hmem := ih h
      grind
  all_goals exact absurd (List.mem_singleton.1 h) lineFeed_ne_replacement

theorem lineFeed_mem_decodeLossy_iff {xs : Octets} : '\n' ∈ decodeLossy xs ↔ 10 ∈ xs := by
  refine ⟨mem_of_mem_decodeLossy, fun h => ?_⟩
  obtain ⟨before, after, rfl⟩ := List.append_of_mem h
  simp [decodeLossy_append_lineFeed]

theorem lineFeed_mem_encode_iff {t : Text} : 10 ∈ encode t ↔ '\n' ∈ t := by
  rw [← lineFeed_mem_decodeLossy_iff, decodeLossy_encode]

end RemoteInterpreter.Text
