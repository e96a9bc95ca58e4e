import RemoteInterpreter.Entries
import RemoteInterpreter.Text.Utf8

/-!
# The order of keys

Entries stand in the order of their keys, and stay so when one is put in. The order of texts is that
of their octets.
-/

namespace RemoteInterpreter

/-! Texts and octets -/

namespace Text

variable {v w m n : Nat} {t u : Octets}

theorem cons_lt_of_lt (h : m < n) (hn : n < 256) : UInt8.ofNat m :: t < UInt8.ofNat n :: u := by
  rw [List.cons_lt_cons_iff, UInt8.lt_iff_toNat_lt]
  simp
  omega

theorem cons_lt_of_eq (h : m = n) (htail : t < u) : UInt8.ofNat m :: t < UInt8.ofNat n :: u :=
  List.cons_lt_cons_iff.2 (Or.inr ⟨congrArg UInt8.ofNat h, htail⟩)

/-- The last six bits decide where all others agree. -/
theorem last_lt (h : v < w) (hsame : v / 64 = w / 64) :
    UInt8.ofNat (v % 64 + 128) :: t < UInt8.ofNat (w % 64 + 128) :: u :=
  cons_lt_of_lt (by omega) (by omega)

theorem last_two_lt (h : v < w) (hsame : v / 4096 = w / 4096) :
    UInt8.ofNat (v / 64 % 64 + 128) :: UInt8.ofNat (v % 64 + 128) :: t <
      UInt8.ofNat (w / 64 % 64 + 128) :: UInt8.ofNat (w % 64 + 128) :: u := by
  by_cases hbits : v / 64 = w / 64
  · exact cons_lt_of_eq (by omega) (last_lt h hbits)
  · exact cons_lt_of_lt (by omega) (by omega)

theorem last_three_lt (h : v < w) (hsame : v / 262144 = w / 262144) :
    UInt8.ofNat (v / 4096 % 64 + 128) :: UInt8.ofNat (v / 64 % 64 + 128) ::
        UInt8.ofNat (v % 64 + 128) :: t <
      UInt8.ofNat (w / 4096 % 64 + 128) :: UInt8.ofNat (w / 64 % 64 + 128) ::
        UInt8.ofNat (w % 64 + 128) :: u := by
  by_cases hbits : v / 4096 = w / 4096
  · exact cons_lt_of_eq (by omega) (last_two_lt h hbits)
  · exact cons_lt_of_lt (by omega) (by omega)

/-- A smaller character is smaller at the first octet where the two differ. -/
theorem encodeChar_lt {c d : Char} (h : c < d) (t u : Octets) :
    String.utf8EncodeChar c ++ t < String.utf8EncodeChar d ++ u := by
  have hlt : c.val.toNat < d.val.toNat := h
  have hd : d.val.toNat < 1114112 := by
    have hvalid : d.val.toNat < 55296 ∨ 57343 < d.val.toNat ∧ d.val.toNat < 1114112 := d.valid
    omega
  unfold String.utf8EncodeChar
  generalize c.val.toNat = v at hlt
  generalize d.val.toNat = w at hlt hd
  dsimp only
  -- with more octets the first one is larger
  by_cases hv : v ≤ 127
  · rw [if_pos hv]
    split
    · exact cons_lt_of_lt hlt (by omega)
    split
    · exact cons_lt_of_lt (by omega) (by omega)
    split <;> exact cons_lt_of_lt (by omega) (by omega)
  rw [if_neg hv, if_neg (show ¬ w ≤ 127 by omega)]
  by_cases hv' : v ≤ 2047
  · rw [if_pos hv']
    split
    · by_cases hbits : v / 64 = w / 64
      · exact cons_lt_of_eq (by omega) (last_lt hlt hbits)
      · exact cons_lt_of_lt (by omega) (by omega)
    split <;> exact cons_lt_of_lt (by omega) (by omega)
  rw [if_neg hv', if_neg (show ¬ w ≤ 2047 by omega)]
  by_cases hv'' : v ≤ 65535
  · rw [if_pos hv'']
    split
    · by_cases hbits : v / 4096 = w / 4096
      · exact cons_lt_of_eq (by omega) (last_two_lt hlt hbits)
      · exact cons_lt_of_lt (by omega) (by omega)
    · exact cons_lt_of_lt (by omega) (by omega)
  rw [if_neg hv'', if_neg (show ¬ w ≤ 65535 by omega)]
  by_cases hbits : v / 262144 = w / 262144
  · exact cons_lt_of_eq (by omega) (last_three_lt hlt hbits)
  · exact cons_lt_of_lt (by omega) (by omega)

/-- Texts are in the order of their octets. -/
theorem encode_lt {t u : Text} (h : t < u) : encode t < encode u := by
  induction t generalizing u with
  | nil =>
    cases u with
    | nil => exact absurd h (List.lt_irrefl [])
    | cons d u =>
      rw [encode_nil, encode, List.flatMap_cons]
      unfold String.utf8EncodeChar
      dsimp only
      split
      · exact List.nil_lt_cons _ _
      split
      · exact List.nil_lt_cons _ _
      split <;> exact List.nil_lt_cons _ _
  | cons c t ih =>
    cases u with
    | nil => exact absurd h (List.not_lt_nil _)
    | cons d u =>
      rcases List.cons_lt_cons_iff.1 h with hchar | ⟨rfl, htail⟩
      · exact encodeChar_lt hchar _ _
      · exact List.append_left_lt (ih htail)

end Text

namespace Entries

variable {α : Type} {m : Entries α}

/-- Keys are strictly increasing. -/
def Sorted (m : Entries α) : Prop := m.Pairwise fun e f => e.1 < f.1

theorem lt_of_not_lt {k l : Text} (hne : k ≠ l) (h : ¬ k < l) : l < k :=
  Std.lt_of_le_of_ne h hne.symm

theorem mem_insert {key : Text} {value : α} {e : Text × α} (h : e ∈ insert key value m) :
    e = (key, value) ∨ e ∈ m := by
  induction m with
  | nil => exact Or.inl (List.mem_singleton.1 h)
  | cons f rest ih =>
    unfold insert at h
    split at h
    · rcases List.mem_cons.1 h with rfl | h
      · exact Or.inl rfl
      · exact Or.inr (List.mem_cons_of_mem _ h)
    split at h
    · rcases List.mem_cons.1 h with rfl | h
      · exact Or.inl rfl
      · exact Or.inr h
    · rcases List.mem_cons.1 h with rfl | h
      · exact Or.inr List.mem_cons_self
      · exact (ih h).imp_right (List.mem_cons_of_mem _)

theorem Sorted.insert (h : Sorted m) (key : Text) (value : α) :
    Sorted (Entries.insert key value m) := by
  induction m with
  | nil => exact List.pairwise_singleton _ _
  | cons f rest ih =>
    obtain ⟨hfirst, hrest⟩ := List.pairwise_cons.1 h
    unfold Entries.insert
    split
    · next heq => exact List.pairwise_cons.2 ⟨fun e he => heq ▸ hfirst e he, hrest⟩
    split
    · next hlt =>
      refine List.pairwise_cons.2 ⟨fun e he => ?_, h⟩
      rcases List.mem_cons.1 he with rfl | he
      · exact hlt
      · exact List.lt_trans hlt (hfirst e he)
    · next hne hnlt =>
      refine List.pairwise_cons.2 ⟨fun e he => ?_, ih hrest⟩
      rcases mem_insert he with rfl | he
      · exact lt_of_not_lt hne hnlt
      · exact hfirst e he

/-- What is listed is put in order. -/
theorem ofList_spec (entries : List (Text × α)) :
    Sorted (ofList entries) ∧ ∀ e ∈ ofList entries, e ∈ entries := by
  have step : ∀ m : Entries α, Sorted m →
      Sorted (entries.foldl (fun m e => insert e.1 e.2 m) m) ∧
        ∀ e ∈ entries.foldl (fun m e => insert e.1 e.2 m) m, e ∈ m ∨ e ∈ entries := by
    induction entries with
    | nil => exact fun _ h => ⟨h, fun _ => Or.inl⟩
    | cons f rest ih =>
      intro m h
      obtain ⟨hsorted, hmem⟩ := ih _ (h.insert f.1 f.2)
      refine ⟨hsorted, fun e he => ?_⟩
      rcases hmem e he with he | he
      · rcases mem_insert he with rfl | he
        · exact Or.inr List.mem_cons_self
        · exact Or.inl he
      · exact Or.inr (List.mem_cons_of_mem _ he)
  obtain ⟨hsorted, hmem⟩ := step [] List.Pairwise.nil
  exact ⟨hsorted, fun e he => (hmem e he).resolve_left List.not_mem_nil⟩

theorem mem_of_find? {key : Text} {value : α} (h : find? key m = some value) :
    (key, value) ∈ m := by
  induction m with
  | nil => cases h
  | cons e rest ih =>
    unfold find? at h
    split at h
    · next heq =>
      cases h
      rw [← heq]
      exact List.mem_cons_self
    · exact List.mem_cons_of_mem _ (ih h)

/-- Every entry is found. -/
theorem Sorted.find?_eq_some_iff (h : Sorted m) {key : Text} {value : α} :
    find? key m = some value ↔ (key, value) ∈ m := by
  refine ⟨mem_of_find?, fun hmem => ?_⟩
  induction m with
  | nil => cases hmem
  | cons e rest ih =>
    obtain ⟨hfirst, hrest⟩ := List.pairwise_cons.1 h
    unfold find?
    rcases List.mem_cons.1 hmem with heq | hmem
    · rw [← heq, if_pos rfl]
    · rw [if_neg fun heq => List.lt_irrefl _ (heq ▸ hfirst _ hmem)]
      exact ih hrest hmem

/-- Values are changed one by one. -/
theorem find?_map {β : Type} (f : α → β) (key : Text) (m : Entries α) :
    find? key (m.map fun e => (e.1, f e.2)) = (find? key m).map f := by
  induction m with
  | nil => rfl
  | cons e rest ih =>
    rw [List.map_cons, find?, find?]
    split
    · rfl
    · exact ih

end Entries

end RemoteInterpreter
