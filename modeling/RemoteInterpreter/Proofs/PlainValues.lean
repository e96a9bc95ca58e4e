import RemoteInterpreter.Decode.Builtin
import RemoteInterpreter.Proofs.Conversion
import RemoteInterpreter.Proofs.Independence

/-!
# The values of the builtin decoders

The builtin decoders make lists and floats of what they unwrap, and wrappers may stand in wrappers.
A wrapper and the value inside it become one value, so a step into a wrapper is no step in the
value. With this, what becomes of every wrapper of a tree is found again in the value, and so is
where the floats that JSON cannot write came from.
-/

namespace RemoteInterpreter

/-! Finite floats -/

namespace Binary64

variable {m n : Nat}

/-- Below the pattern of the infinities everything is finite. -/
theorem isFinite_ofNatBits (h : m < 2047 * 2 ^ 52) (negative : Bool) :
    (ofNatBits (signBit negative + m)).isFinite = true := by
  have hfits : (signBit negative + m) % 2 ^ 64 = signBit negative + m := by
    refine Nat.mod_eq_of_lt ?_
    cases negative <;> simp only [signBit, Bool.false_eq_true, if_true, if_false] <;> omega
  have hfield : (ofNatBits (signBit negative + m)).exponentField = m / 2 ^ 52 := by
    simp only [exponentField, ofNatBits, UInt64.toNat_ofNat', hfits]
    cases negative <;> simp only [signBit, Bool.false_eq_true, if_true, if_false] <;> omega
  have hne : m / 2 ^ 52 ≠ 2047 := by omega
  simp [isFinite, hfield, hne]

theorem nearest_le (num den : Nat) : nearest num den ≤ num / den + 1 := by
  simp only [nearest]
  grind

/-- At the scale that is guessed, or a larger one, a natural has at most fifty-four bits. -/
theorem shifted_div_lt {e : Int} (h : (n.log2 : Int) - 53 ≤ e) :
    (shifted n 1 (-e)).1 / (shifted n 1 (-e)).2 < 2 ^ 54 := by
  have hn : n < 2 ^ (n.log2 + 1) := Nat.lt_log2_self
  simp only [shifted, Nat.one_mul, Int.neg_neg]
  rw [Nat.div_lt_iff_lt_mul (Nat.two_pow_pos _), ← Nat.pow_add]
  calc n * 2 ^ (-e).toNat
      < 2 ^ (n.log2 + 1) * 2 ^ (-e).toNat := Nat.mul_lt_mul_of_pos_right hn (Nat.two_pow_pos _)
    _ = 2 ^ (n.log2 + 1 + (-e).toNat) := (Nat.pow_add _ _ _).symm
    _ ≤ 2 ^ (54 + e.toNat) := Nat.pow_le_pow_right (by decide) (by omega)

theorem scaleOfRatio_bounds (n : Nat) : (n.log2 : Int) - 53 ≤ scaleOfRatio n 1 ∧
    scaleOfRatio n 1 ≤ max ((n.log2 : Int) - 52) (-1074) := by
  have hone : Nat.log2 1 = 0 := by decide
  simp only [scaleOfRatio, hone]
  split <;> omega

/-- Naturals of sixty-four bits are far from the largest number. -/
theorem isFinite_ofRatio (h : n < 2 ^ 64) (negative : Bool) :
    (ofRatio negative n 1).isFinite = true := by
  unfold ofRatio
  split
  · exact isFinite_ofNatBits (m := 0) (by decide) negative
  · next hn =>
    have hlog : n.log2 < 64 := (Nat.log2_lt hn).2 h
    obtain ⟨hlow, hhigh⟩ := scaleOfRatio_bounds n
    have hbits := shifted_div_lt hlow
    have hnearest := nearest_le (shifted n 1 (-scaleOfRatio n 1)).1
      (shifted n 1 (-scaleOfRatio n 1)).2
    have hexponent : (scaleOfRatio n 1 + 1074).toNat ≤ 1085 := by omega
    have hsmall : (scaleOfRatio n 1 + 1074).toNat * 2 ^ 52 +
        nearest (shifted n 1 (-scaleOfRatio n 1)).1 (shifted n 1 (-scaleOfRatio n 1)).2 <
          2047 * 2 ^ 52 := by omega
    simp only
    rw [if_neg (Nat.not_le.2 hsmall)]
    exact isFinite_ofNatBits hsmall negative

theorem isFinite_ofInt {n : Int} (low : -2 ^ 63 ≤ n) (high : n < 2 ^ 64) :
    (ofInt n).isFinite = true := isFinite_ofRatio (by omega) _

end Binary64

/-! Places in the value -/

/-- Where the value of a place stands. A wrapper and the value inside it have one place. -/
def Json.valuePlace : Json → List Step → List Step
  | _, [] => []
  | j, s :: p =>
    let rest := match j.layer.child? s with
      | some k => k.valuePlace p
      | none => p
    if (Decode.wrapper? j).isSome then rest else s :: rest

namespace Json

variable {j k inner : Json} {s : Step} {p : List Step} {tag : Text}

theorem valuePlace_cons (hroot : Decode.wrapper? j = none) (hk : j.layer.child? s = some k) :
    j.valuePlace (s :: p) = s :: k.valuePlace p := by
  rw [valuePlace, hroot, hk]
  rfl

theorem valuePlace_of_open (h : j.Open p) : j.valuePlace p = p := by
  induction p generalizing j with
  | nil => rfl
  | cons s p ih =>
    obtain ⟨hroot, hbelow⟩ := open_cons.1 h
    rw [valuePlace, hroot]
    cases hk : j.layer.child? s with
    | none => rfl
    | some k => exact congrArg (s :: ·) (ih (hbelow k hk))

end Json

namespace Value

variable {v u : Value} {q : List Step}

theorem at?_leaf (h : v.layer = .leaf) (hq : v.at? q = some u) : q = [] ∧ u = v := by
  cases q with
  | nil =>
    cases hq
    exact ⟨rfl, rfl⟩
  | cons s q =>
    rw [at?_cons, h] at hq
    cases hq

end Value

namespace Decode

variable {j k inner : Json} {v u : Value} {tag : Text} {e : DecodeError}

/-! The pack -/

/-- The registry that holds the builtin entries and no others. -/
def builtinPack : Registry := registerAll builtins []

def listTags : List Text :=
  ["builtins.set".toList, "builtins.frozenset".toList, "builtins.bytes".toList,
    "builtins.bytearray".toList, "builtins.range".toList]

/-- The strings that stand for the floats that JSON cannot write. -/
def specials : List (Text × Binary64) :=
  [("nan".toList, Binary64.nan), ("inf".toList, Binary64.infinity false),
    ("-inf".toList, Binary64.infinity true)]

/-- The tag has no entry in the pack. -/
def Outside (tag : Text) : Prop := tag ≠ floatTag ∧ tag ≠ complexTag ∧ tag ∉ listTags

theorem decoder?_float : builtinPack.decoder? floatTag = some .float := by decide

theorem decoder?_complex : builtinPack.decoder? complexTag = some .complex := by decide

theorem decoder?_listed (h : tag ∈ listTags) : builtinPack.decoder? tag = some .items := by
  have hall : ∀ t ∈ listTags, builtinPack.decoder? t = some .items := by decide
  exact hall tag h

theorem decoder?_outside (h : Outside tag) : builtinPack.decoder? tag = none := by
  have hall : ∀ e ∈ builtins, e.tag ∈ floatTag :: complexTag :: listTags := by decide
  refine (Registry.decoder?_foldl (fun e he htag => ?_) []).trans rfl
  have hmem := hall e he
  rw [htag, List.mem_cons, List.mem_cons] at hmem
  rcases hmem with hfloat | hcomplex | hlisted
  · exact h.1 hfloat
  · exact h.2.1 hcomplex
  · exact h.2.2 hlisted

theorem complexTag_ne_floatTag : complexTag ≠ floatTag := by decide

theorem ne_of_listed (h : tag ∈ listTags) : tag ≠ floatTag ∧ tag ≠ complexTag := by
  have hall : ∀ t ∈ listTags, t ≠ floatTag ∧ t ≠ complexTag := by decide
  exact hall tag h

theorem isFinite_of_special {t : Text} {x : Binary64} (h : (t, x) ∈ specials) :
    x.isFinite = false := by
  have hall : ∀ s ∈ specials, s.2.isFinite = false := by decide
  exact hall (t, x) h

/-- What the pack makes of a wrapper. -/
inductive Unwraps : Text → Json → Value → Prop
  | list {tag items vs} (listed : tag ∈ listTags)
      (decoded : decode builtinPack (.array items) = .ok (.list vs)) :
    Unwraps tag (.array items) (.list vs)
  | complex {a b u w x y} (first : decode builtinPack a = .ok u) (real : u.asFloat? = some x)
      (second : decode builtinPack b = .ok w) (imag : w.asFloat? = some y) :
    Unwraps complexTag (.array [a, b]) (.list [.float x, .float y])
  | float {t x} (special : (t, x) ∈ specials) : Unwraps floatTag (.string t) (.float x)

/-- What the pack objects to in a wrapper itself, whatever stands deeper inside. -/
inductive Faulty : Text → Json → DecodeError → Prop
  | unregistered {tag : Text} {inner : Json} (outside : Outside tag) :
    Faulty tag inner (.unregistered tag)
  | float {inner : Json} (unknown : ∀ t x, (t, x) ∈ specials → inner ≠ .string t) :
    Faulty floatTag inner
      (.rejected floatTag ("expected nan, inf or -inf, got ".toList ++ inner.write))
  | shape {inner : Json} (other : ∀ a b, inner ≠ .array [a, b]) :
    Faulty complexTag inner (.rejected complexTag "expected [real, imag]".toList)
  | part {a b k u} (isPart : k ∈ [a, b]) (decoded : decode builtinPack k = .ok u)
      (noNumber : u.asFloat? = none) :
    Faulty complexTag (.array [a, b])
      (.rejected complexTag ("expected a number, got ".toList ++ u.kind))
  | list {tag : Text} {inner : Json} (listed : tag ∈ listTags)
      (other : ∀ items, inner ≠ .array items) :
    Faulty tag inner (.conversion (.notAList inner.write))

theorem specialFloat_string (t : Text) :
    (∃ x, (t, x) ∈ specials ∧ specialFloat (.string t) = .ok (.float x)) ∨
      (∀ x, (t, x) ∉ specials) ∧ specialFloat (.string t) = .error (.rejected floatTag
        ("expected nan, inf or -inf, got ".toList ++ (Json.string t).write)) := by
  simp only [specials, List.mem_cons, List.not_mem_nil, or_false, Prod.mk.injEq]
  unfold specialFloat
  dsimp only
  split
  · next hnan => exact Or.inl ⟨_, Or.inl ⟨hnan, rfl⟩, rfl⟩
  · next hnan =>
    split
    · next hinf => exact Or.inl ⟨_, Or.inr (Or.inl ⟨hinf, rfl⟩), rfl⟩
    · next hinf =>
      split
      · next hminus => exact Or.inl ⟨_, Or.inr (Or.inr ⟨hminus, rfl⟩), rfl⟩
      · next hminus =>
        refine Or.inr ⟨fun x hx => ?_, rfl⟩
        rcases hx with ⟨h, -⟩ | ⟨h, -⟩ | ⟨h, -⟩
        · exact hnan h
        · exact hinf h
        · exact hminus h

theorem specialFloat_of_not_string (h : ∀ t, inner ≠ .string t) :
    specialFloat inner = .error (.rejected floatTag
      ("expected nan, inf or -inf, got ".toList ++ inner.write)) := by
  cases inner with
  | string t => exact absurd rfl (h t)
  | _ => rfl

theorem complexPart_of_number {x : Binary64} (h : v.asFloat? = some x) :
    complexPart v = .ok (.float x) := by
  rw [complexPart, h]

theorem complexPart_of_other (h : v.asFloat? = none) : complexPart v =
    .error (.rejected complexTag ("expected a number, got ".toList ++ v.kind)) := by
  rw [complexPart, h]

/-- Unwrapped by the pack, at fault in itself, or with an error from inside. -/
inductive Comes (tag : Text) (inner : Json) : Except DecodeError Value → Prop
  | unwrapped {v : Value} (unwraps : Unwraps tag inner v) : Comes tag inner (.ok v)
  | fault {e : DecodeError} (faulty : Faulty tag inner e) : Comes tag inner (.error e)
  | inside {e : DecodeError} (fails : decode builtinPack inner = .error e) :
    Comes tag inner (.error e)

theorem decode_pair_error {a b : Json} {r : Registry}
    (h : decode r a = .error e ∨ ∃ u, decode r a = .ok u ∧ decode r b = .error e) :
    decode r (.array [a, b]) = .error e := by
  rw [decode, decodeItems, decodeItems, decodeItems]
  rcases h with ha | ⟨u, ha, hb⟩
  · rw [ha]
    rfl
  · rw [ha, hb]
    rfl

theorem comes_float (inner : Json) : Comes floatTag inner (specialFloat inner) := by
  by_cases h : ∃ t, inner = .string t
  · obtain ⟨t, rfl⟩ := h
    rcases specialFloat_string t with ⟨x, hx, hok⟩ | ⟨hno, herror⟩
    · rw [hok]
      exact .unwrapped (.float hx)
    · rw [herror]
      refine .fault (.float fun s x hx heq => ?_)
      cases heq
      exact hno x hx
  · have hno : ∀ t, inner ≠ .string t := fun t ht => h ⟨t, ht⟩
    rw [specialFloat_of_not_string hno]
    exact .fault (.float fun t x _ => hno t)

theorem comes_list (h : tag ∈ listTags) (inner : Json) :
    Comes tag inner (result builtinPack tag .items inner) := by
  by_cases harray : ∃ items, inner = .array items
  · obtain ⟨items, rfl⟩ := harray
    rw [result]
    cases hitems : decodeItems builtinPack items with
    | ok vs => exact .unwrapped (.list h (by rw [decode, hitems]; rfl))
    | error e => exact .inside (by rw [decode, hitems]; rfl)
  · have hno : ∀ items, inner ≠ .array items := fun items heq => harray ⟨items, heq⟩
    have hresult : result builtinPack tag .items inner =
        .error (.conversion (.notAList inner.write)) := by
      cases inner with
      | array items => exact absurd rfl (hno items)
      | _ => rfl
    rw [hresult]
    exact .fault (.list h hno)

/-- A part of a complex number is a number, no number, or cannot be decoded. -/
theorem part_cases (k : Json) :
    (∃ u x, decode builtinPack k = .ok u ∧ u.asFloat? = some x ∧
      (decode builtinPack k).bind complexPart = .ok (.float x)) ∨
    (∃ u, decode builtinPack k = .ok u ∧ u.asFloat? = none ∧
      (decode builtinPack k).bind complexPart =
        .error (.rejected complexTag ("expected a number, got ".toList ++ u.kind))) ∨
    ∃ e, decode builtinPack k = .error e ∧
      (decode builtinPack k).bind complexPart = .error e := by
  cases hk : decode builtinPack k with
  | error e => exact Or.inr (Or.inr ⟨e, rfl, rfl⟩)
  | ok u =>
    cases hu : u.asFloat? with
    | some x => exact Or.inl ⟨u, x, rfl, hu, complexPart_of_number hu⟩
    | none => exact Or.inr (Or.inl ⟨u, rfl, hu, complexPart_of_other hu⟩)

theorem comes_complex (inner : Json) :
    Comes complexTag inner (result builtinPack complexTag .complex inner) := by
  by_cases hpair : ∃ a b, inner = .array [a, b]
  · obtain ⟨a, b, rfl⟩ := hpair
    rw [result]
    rcases part_cases a with ⟨u, x, ha, hu, hx⟩ | ⟨u, ha, hu, hx⟩ | ⟨e, ha, hx⟩
    · rcases part_cases b with ⟨w, y, hb, hw, hy⟩ | ⟨w, hb, hw, hy⟩ | ⟨e, hb, hy⟩
      · rw [hx, hy]
        exact .unwrapped (.complex ha hu hb hw)
      · rw [hx, hy]
        exact .fault (.part (by simp) hb hw)
      · rw [hx, hy]
        exact .inside (decode_pair_error (Or.inr ⟨u, ha, hb⟩))
    · rw [hx]
      exact .fault (.part (by simp) ha hu)
    · rw [hx]
      exact .inside (decode_pair_error (Or.inl ha))
  · have hno : ∀ a b, inner ≠ .array [a, b] := fun a b heq => hpair ⟨a, b, heq⟩
    have hresult : result builtinPack complexTag .complex inner =
        .error (.rejected complexTag "expected [real, imag]".toList) := by
      cases inner with
      | array items =>
        rcases items with - | ⟨a, - | ⟨b, - | ⟨c, rest⟩⟩⟩
        · rfl
        · rfl
        · exact absurd rfl (hno a b)
        · rfl
      | _ => rfl
    rw [hresult]
    exact .fault (.shape hno)

/-- Every tag is one of the pack or outside of it. -/
theorem comes_dispatch (tag : Text) (inner : Json) :
    Comes tag inner (dispatch (decoders builtinPack) tag inner) := by
  rw [dispatch, decoders_eq]
  by_cases hfloat : tag = floatTag
  · rw [hfloat, decoder?_float]
    exact comes_float inner
  by_cases hcomplex : tag = complexTag
  · rw [hcomplex, decoder?_complex]
    exact comes_complex inner
  by_cases hlisted : tag ∈ listTags
  · rw [decoder?_listed hlisted]
    exact comes_list hlisted inner
  · have houtside : Outside tag := ⟨hfloat, hcomplex, hlisted⟩
    rw [decoder?_outside houtside]
    exact .fault (.unregistered houtside)

/-! Trees and their values -/

/-- What can stand at the root of a value of the pack where no wrapper was. -/
structure PlainRoot (v : Value) : Prop where
  ints : ∀ n, v = .int n → -2 ^ 63 ≤ n ∧ n < 2 ^ 63
  floats : ∀ x, v = .float x → x.isFinite = true
  noOpaque : ∀ o, v ≠ .opaqueValue o
  sorted : v.layer.Sorted

theorem Alike.plainRoot (h : Alike j v) (hj : j.Valid) : PlainRoot v := by
  cases h with
  | @int n fits =>
    refine ⟨fun m hm => ?_, nofun, nofun, trivial⟩
    cases hm
    exact fits
  | @beyond n large =>
    refine ⟨nofun, fun x hx => ?_, nofun, trivial⟩
    cases hx
    obtain ⟨low, high⟩ := hj.integers [] n rfl
    exact Binary64.isFinite_ofInt low high
  | float x =>
    refine ⟨nofun, fun y hy => ?_, nofun, trivial⟩
    cases hy
    exact hj.floats [] x rfl
  | @map fields es keys =>
    refine ⟨nofun, nofun, nofun, ?_⟩
    have hsorted : (fields.map Prod.fst).Pairwise (· < ·) := List.pairwise_map.2 hj.keyed.root
    rw [← keys] at hsorted
    exact List.pairwise_map.1 hsorted
  | _ => exact ⟨nofun, nofun, nofun, trivial⟩

/-- The value that the pack makes of a tree: each wrapper of the tree is unwrapped in the value, and
only wrapped floats are not finite. -/
structure Plain (j : Json) (v : Value) : Prop where
  valid : v.Valid
  noOpaque : ∀ q o, v.at? q ≠ some (.opaqueValue o)
  unwrapped : ∀ p tag inner, j.WrapperAt p tag inner →
    ∃ w, v.at? (j.valuePlace p) = some w ∧ Unwraps tag inner w
  special : ∀ q x, v.at? q = some (.float x) → x.isFinite = false →
    ∃ p inner, j.WrapperAt p floatTag inner ∧ j.valuePlace p = q

/-- Where no wrapper is, it is enough that the children of tree and value correspond. -/
theorem Plain.of_children (hroot : wrapper? j = none) (hv : PlainRoot v)
    (down : ∀ s k, j.layer.child? s = some k → ∃ u, v.layer.child? s = some u ∧ Plain k u)
    (up : ∀ s u, v.layer.child? s = some u → ∃ k, j.layer.child? s = some k ∧ Plain k u) :
    Plain j v := by
  have below : ∀ s u, (s, u) ∈ v.layer.children → ∃ k, Plain k u := by
    intro s u hu
    obtain ⟨k, -, hplain⟩ := up s u (hv.sorted.child?_eq_some_iff.2 hu)
    exact ⟨k, hplain⟩
  refine ⟨⟨?_, KeyedTree.of_children hv.sorted fun s u hu => ?_⟩, ?_, ?_, ?_⟩
  · have hints : ∀ p u, v.at? p = some u → ∀ n, u = .int n → -2 ^ 63 ≤ n ∧ n < 2 ^ 63 := by
      refine forall_places hv.ints fun s u hu p w hw n hn => ?_
      obtain ⟨k, hplain⟩ := below s u hu
      exact hplain.valid.ints p n (hw.trans (congrArg some hn))
    exact fun p n hp => hints p _ hp n rfl
  · obtain ⟨k, hplain⟩ := below s u hu
    exact hplain.valid.keyed
  · have hopaque : ∀ p u, v.at? p = some u → ∀ o, u ≠ .opaqueValue o := by
      refine forall_places hv.noOpaque fun s u hu p w hw o ho => ?_
      obtain ⟨k, hplain⟩ := below s u hu
      exact hplain.noOpaque p o (hw.trans (congrArg some ho))
    exact fun q o hq => hopaque q _ hq o rfl
  · intro p tag inner hp
    cases p with
    | nil =>
      rw [Json.wrapperAt_nil, hroot] at hp
      cases hp
    | cons s p =>
      obtain ⟨k, hk, hp⟩ := Json.wrapperAt_cons.1 hp
      obtain ⟨u, hu, hplain⟩ := down s k hk
      obtain ⟨w, hw, hunwraps⟩ := hplain.unwrapped p tag inner hp
      refine ⟨w, ?_, hunwraps⟩
      rw [Json.valuePlace_cons hroot hk, Value.at?_cons, hu]
      exact hw
  · intro q x hq hx
    cases q with
    | nil =>
      cases hq
      rw [hv.floats x rfl] at hx
      cases hx
    | cons s q =>
      obtain ⟨u, hu, hq⟩ := Option.bind_eq_some_iff.1 hq
      obtain ⟨k, hk, hplain⟩ := up s u hu
      obtain ⟨p, inner, hp, hplace⟩ := hplain.special q x hq hx
      refine ⟨s :: p, inner, Json.wrapperAt_cons.2 ⟨k, hk, hp⟩, ?_⟩
      rw [Json.valuePlace_cons hroot hk, hplace]

/-- A wrapper whose inner value and itself become the same value. -/
theorem Plain.of_inner (h : Plain inner v) (hunwraps : Unwraps tag inner v) :
    Plain (wrap tag inner) v := by
  refine ⟨h.valid, h.noOpaque, fun p t i hp => ?_, fun q x hq hx => ?_⟩
  · rcases Json.wrapperAt_wrap.1 hp with ⟨rfl, rfl, rfl⟩ | ⟨q, rfl, hq⟩
    · exact ⟨v, rfl, hunwraps⟩
    · obtain ⟨w, hw, hunwraps'⟩ := h.unwrapped q t i hq
      exact ⟨w, hw, hunwraps'⟩
  · obtain ⟨p, i, hp, hplace⟩ := h.special q x hq hx
    exact ⟨_, i, Json.wrapperAt_wrap.2 (Or.inr ⟨p, rfl, hp⟩), hplace⟩

theorem plain_float {t : Text} {x : Binary64} (h : (t, x) ∈ specials) :
    Plain (wrap floatTag (.string t)) (.float x) := by
  refine ⟨⟨fun p n hp => ?_, KeyedTree.of_children trivial nofun⟩, fun q o hq => ?_,
    fun p tag inner hp => ?_, fun q y hq _ => ?_⟩
  · exact absurd (Value.at?_leaf rfl hp).2 nofun
  · exact absurd (Value.at?_leaf rfl hq).2 nofun
  · rcases Json.wrapperAt_wrap.1 hp with ⟨rfl, rfl, rfl⟩ | ⟨q, rfl, hq⟩
    · exact ⟨_, rfl, .float h⟩
    · exact absurd hq (Json.not_wrapperAt_leaf rfl)
  · exact ⟨[], _, Json.wrapperAt_wrap.2 (Or.inl ⟨rfl, rfl, rfl⟩), (Value.at?_leaf rfl hq).1.symm⟩

/-- A number that is taken for a float stays what the pack made of its tree. -/
theorem Plain.asFloat {x : Binary64} (h : Plain j v) (hx : v.asFloat? = some x) :
    Plain j (.float x) := by
  cases v with
  | float y =>
    cases hx
    exact h
  | int n =>
    cases hx
    obtain ⟨low, high⟩ := h.valid.ints [] n rfl
    refine ⟨⟨fun p m hp => ?_, KeyedTree.of_children trivial nofun⟩, fun q o hq => ?_,
      fun p tag inner hp => ?_, fun q y hq hy => ?_⟩
    · exact absurd (Value.at?_leaf rfl hp).2 nofun
    · exact absurd (Value.at?_leaf rfl hq).2 nofun
    · obtain ⟨w, hw, hunwraps⟩ := h.unwrapped p tag inner hp
      -- no wrapper becomes an integer
      rw [(Value.at?_leaf rfl hw).2] at hunwraps
      cases hunwraps
    · cases (Value.at?_leaf rfl hq).2
      rw [Binary64.isFinite_ofInt low (by omega)] at hy
      cases hy
  | _ => cases hx

theorem plain_pair {a b : Json} {x y : Binary64} (ha : Plain a (.float x))
    (hb : Plain b (.float y)) : Plain (.array [a, b]) (.list [.float x, .float y]) := by
  refine Plain.of_children rfl ⟨nofun, nofun, nofun, trivial⟩ (fun s k hk => ?_) fun s u hu => ?_
  · match s, hk with
    | .item 0, hk => cases hk; exact ⟨_, rfl, ha⟩
    | .item 1, hk => cases hk; exact ⟨_, rfl, hb⟩
  · match s, hu with
    | .item 0, hu => cases hu; exact ⟨_, rfl, ha⟩
    | .item 1, hu => cases hu; exact ⟨_, rfl, hb⟩

theorem wrapper?_eq_wrap (h : j.Keyed) (hw : wrapper? j = some (tag, inner)) :
    j = wrap tag inner := by
  cases j with
  | object fields => rw [(wrapper?_eq_some_iff h.root).1 hw, wrap]
  | _ => cases hw

theorem decode_wrap (r : Registry) (h : (wrap tag inner).Keyed) :
    decode r (wrap tag inner) = dispatch (decoders r) tag inner :=
  (decode_eq_through r _ h).trans (through_of_wrapper rfl)

/-- Whatever stands in the tree, at the root or deeper, comes out plain. -/
theorem plain_places (h : j.Valid) : ∀ p k, j.at? p = some k →
    ∀ v, decode builtinPack k = .ok v → Plain k v := by
  induction j using Json.tree_induction with
  | step j ih =>
    have below : ∀ s k, (s, k) ∈ j.layer.children → ∀ p l, k.at? p = some l →
        ∀ v, decode builtinPack l = .ok v → Plain l v :=
      fun s k hk => ih s k hk (h.child (h.keyed.child?_eq_some_iff.2 hk))
    refine forall_places (fun v hv => ?_) below
    cases hroot : wrapper? j with
    | some x =>
      obtain ⟨tag, inner⟩ := x
      obtain rfl := wrapper?_eq_wrap h.keyed hroot
      have hinner := below (.field valueKey) inner (Layer.mem_children_of_child? rfl)
      have hcomes := comes_dispatch tag inner
      rw [← decode_wrap _ h.keyed, hv] at hcomes
      obtain ⟨unwraps⟩ := hcomes
      cases unwraps with
      | list listed decoded =>
        exact (hinner [] _ rfl _ decoded).of_inner (.list listed decoded)
      | @complex a b u w x y first real second imag =>
        have ha : Plain a u := hinner [.item 0] a rfl u first
        have hb : Plain b w := hinner [.item 1] b rfl w second
        have hpair := plain_pair (ha.asFloat real) (hb.asFloat imag)
        exact hpair.of_inner (.complex first real second imag)
      | float special => exact plain_float special
    | none =>
      rw [decode_eq_through _ _ h.keyed] at hv
      have plain : ∀ s k u, j.layer.child? s = some k →
          through (decoders builtinPack) k = .ok u → Plain k u := by
        intro s k u hk hu
        rw [← decode_eq_through _ _ (h.child hk).keyed] at hu
        exact below s k (Layer.mem_children_of_child? hk) [] k rfl u hu
      refine Plain.of_children hroot ((alike_through hroot hv).plainRoot h) (fun s k hk => ?_)
        fun s u hu => ?_
      · have hchild := child?_through hroot hv s
        rw [hk] at hchild
        obtain ⟨u, hu, hthrough⟩ := Option.map_eq_some_iff.1 hchild
        exact ⟨u, hu, plain s k u hk hthrough.symm⟩
      · have hchild := child?_through hroot hv s
        rw [hu] at hchild
        obtain ⟨k, hk, hthrough⟩ := Option.map_eq_some_iff.1 hchild.symm
        exact ⟨k, hk, plain s k u hk hthrough⟩

theorem plain_of_decode (h : j.Valid) (hv : decode builtinPack j = .ok v) : Plain j v :=
  plain_places h [] j rfl v hv

/-! Faults -/

theorem Unwraps.not_faulty (h : Unwraps tag inner v) : ¬ Faulty tag inner e := by
  intro hfaulty
  cases h with
  | list listed decoded =>
    obtain ⟨hfloat, hcomplex⟩ := ne_of_listed listed
    cases hfaulty with
    | unregistered outside => exact outside.2.2 listed
    | float => exact hfloat rfl
    | shape => exact hcomplex rfl
    | part => exact hcomplex rfl
    | list _ other => exact other _ rfl
  | complex first real second imag =>
    generalize htag : complexTag = t at hfaulty
    cases hfaulty with
    | unregistered outside => exact outside.2.1 htag.symm
    | float => exact complexTag_ne_floatTag htag
    | shape other => exact other _ _ rfl
    | @part a b k u isPart decoded noNumber =>
      simp only [List.mem_cons, List.not_mem_nil, or_false] at isPart
      rcases isPart with rfl | rfl
      · cases first.symm.trans decoded
        rw [real] at noNumber
        cases noNumber
      · cases second.symm.trans decoded
        rw [imag] at noNumber
        cases noNumber
    | list listed => exact (ne_of_listed listed).2 htag.symm
  | float special =>
    generalize htag : floatTag = t at hfaulty
    cases hfaulty with
    | unregistered outside => exact outside.1 htag.symm
    | float unknown => exact unknown _ _ special rfl
    | shape => exact complexTag_ne_floatTag htag.symm
    | list listed => exact (ne_of_listed listed).1 htag.symm

theorem Unwraps.special (h : Unwraps floatTag inner v) :
    ∃ x, v = .float x ∧ x.isFinite = false := by
  generalize htag : floatTag = t at h
  cases h with
  | list listed => exact absurd htag.symm (ne_of_listed listed).1
  | complex => exact absurd htag.symm complexTag_ne_floatTag
  | float special => exact ⟨_, rfl, isFinite_of_special special⟩

/-- An error is that of a wrapper which is at fault in itself. -/
theorem faulty_of_decode (h : j.Keyed) (he : decode builtinPack j = .error e) :
    ∃ p tag inner, j.WrapperAt p tag inner ∧ Faulty tag inner e := by
  induction j using Json.tree_induction with
  | step j ih =>
    -- an error of a child is one of the tree
    have hchild : ∀ s k, (s, k) ∈ j.layer.children → decode builtinPack k = .error e →
        ∃ p tag inner, j.WrapperAt p tag inner ∧ Faulty tag inner e := by
      intro s k hk hfails
      have hstep := h.child?_eq_some_iff.2 hk
      obtain ⟨p, tag, inner, hp, hfaulty⟩ := ih s k hk (h.child hstep) hfails
      exact ⟨s :: p, tag, inner, Json.wrapperAt_cons.2 ⟨k, hstep, hp⟩, hfaulty⟩
    cases hroot : wrapper? j with
    | some x =>
      obtain ⟨tag, inner⟩ := x
      obtain rfl := wrapper?_eq_wrap h hroot
      have hcomes := comes_dispatch tag inner
      rw [← decode_wrap _ h, he] at hcomes
      cases hcomes with
      | fault faulty => exact ⟨[], tag, inner, Json.wrapperAt_nil.2 hroot, faulty⟩
      | inside fails =>
        exact hchild (.field valueKey) inner (Layer.mem_children_of_child? rfl) fails
    | none =>
      rw [decode_eq_through _ _ h, ← failure?_eq_some_iff, failure?_of_children hroot] at he
      obtain ⟨⟨s, k⟩, hk, hfails⟩ := List.exists_of_findSome?_eq_some he
      refine hchild s k hk ?_
      rw [decode_eq_through _ _ (h.child (h.child?_eq_some_iff.2 hk))]
      exact failure?_eq_some_iff.1 hfails

/-- Decoded by the builtin pack alone, a tree becomes a plain value. There is no opaque value in it,
and every wrapper of the tree, also inside other wrappers, is found unwrapped at its place: a list
for a set, a frozenset, octets or a range, a list of two floats for a complex number, and a float
that is not finite for a float. There are no other such floats, so the value has a JSON form exactly
if the tree has no wrapper of a float. A failure is that of a wrapper at fault, and a tree without
such wrappers is decoded. -/
theorem builtin_pack_makes_plain_values (h : j.Valid) :
    (∀ v, decode builtinPack j = .ok v →
      (∀ q o, v.at? q ≠ some (.opaqueValue o)) ∧
      (∀ p tag inner, j.WrapperAt p tag inner →
        ∃ w, v.at? (j.valuePlace p) = some w ∧ Unwraps tag inner w) ∧
      (∀ p, j.Open p → j.valuePlace p = p) ∧
      (∀ q x, v.at? q = some (.float x) → x.isFinite = false →
        ∃ p inner, j.WrapperAt p floatTag inner ∧ j.valuePlace p = q) ∧
      (v.toJson?.isSome = true ↔ ¬ j.Mentions floatTag)) ∧
    (∀ e, decode builtinPack j = .error e →
      ∃ p tag inner, j.WrapperAt p tag inner ∧ Faulty tag inner e) ∧
    ((∃ v, decode builtinPack j = .ok v) ↔
      ∀ p tag inner e, j.WrapperAt p tag inner → ¬ Faulty tag inner e) := by
  refine ⟨fun v hv => ?_, fun e he => faulty_of_decode h.keyed he, ?_⟩
  · have hplain := plain_of_decode h hv
    refine ⟨hplain.noOpaque, hplain.unwrapped, fun p => Json.valuePlace_of_open, hplain.special, ?_⟩
    rw [← not_iff_not, Bool.not_eq_true, Option.isSome_eq_false_iff, Option.isNone_iff_eq_none,
      not_not, Value.toJson?_eq_none_iff hplain.valid.keyed]
    constructor
    · rintro ⟨q, u, hq, hu⟩
      cases u with
      | opaqueValue o => exact absurd hq (hplain.noOpaque q o)
      | float x =>
        obtain ⟨p, inner, hp, -⟩ := hplain.special q x hq hu
        exact ⟨p, inner, hp⟩
      | _ => exact absurd hu nofun
    · rintro ⟨p, inner, hp⟩
      obtain ⟨w, hw, hunwraps⟩ := hplain.unwrapped p floatTag inner hp
      obtain ⟨x, rfl, hx⟩ := hunwraps.special
      exact ⟨_, _, hw, hx⟩
  · constructor
    · rintro ⟨v, hv⟩ p tag inner e hp hfaulty
      obtain ⟨w, -, hunwraps⟩ := (plain_of_decode h hv).unwrapped p tag inner hp
      exact hunwraps.not_faulty hfaulty
    · intro hsound
      cases hj : decode builtinPack j with
      | ok v => exact ⟨v, rfl⟩
      | error e =>
        obtain ⟨p, tag, inner, hp, hfaulty⟩ := faulty_of_decode h.keyed hj
        exact absurd hfaulty (hsound p tag inner e hp)

/-! A tree of wrappers in wrappers -/

theorem valid_of_children (ints : ∀ n, j = .number (.integer n) → -2 ^ 63 ≤ n ∧ n < 2 ^ 64)
    (floats : ∀ x, j = .number (.float x) → x.isFinite = true) (sorted : j.layer.Sorted)
    (below : ∀ s k, (s, k) ∈ j.layer.children → k.Valid) : j.Valid := by
  have hints : ∀ p k, j.at? p = some k → ∀ n, k = .number (.integer n) →
      -2 ^ 63 ≤ n ∧ n < 2 ^ 64 := by
    refine forall_places ints fun s k hk p l hl n hn => ?_
    exact (below s k hk).integers p n (hl.trans (congrArg some hn))
  have hfloats : ∀ p k, j.at? p = some k → ∀ x, k = .number (.float x) → x.isFinite = true := by
    refine forall_places floats fun s k hk p l hl x hx => ?_
    exact (below s k hk).floats p x (hl.trans (congrArg some hx))
  exact ⟨fun p n hp => hints p _ hp n rfl, fun p x hp => hfloats p _ hp x rfl,
    KeyedTree.of_children sorted fun s k hk => (below s k hk).keyed⟩

theorem valid_array {items : List Json} (h : ∀ item ∈ items, item.Valid) :
    (Json.array items).Valid := by
  refine valid_of_children nofun nofun trivial fun s k hk => ?_
  obtain ⟨i, -, hi⟩ := Layer.mem_items.1 hk
  exact h k (List.mem_of_getElem? hi)

theorem valid_wrap (tag : Text) (h : inner.Valid) : (wrap tag inner).Valid := by
  have htag : (Json.string tag).Valid := valid_of_children nofun nofun trivial nofun
  refine valid_of_children nofun nofun (List.pairwise_pair.2 typeKey_lt_valueKey) fun s k hk => ?_
  obtain ⟨key, -, hmem⟩ := Layer.mem_fields.1 hk
  simp only [List.mem_cons, List.not_mem_nil, or_false, Prod.mk.injEq] at hmem
  rcases hmem with ⟨-, rfl⟩ | ⟨-, rfl⟩
  · exact htag
  · exact h

/-- A set that holds a complex number with an infinite part. -/
def infiniteInSet : Json :=
  .array [.null, wrap "builtins.set".toList (.array [wrap complexTag
    (.array [.number (.integer 1), wrap floatTag (.string "inf".toList)])])]

/-- A complex number whose second part is none. -/
def partlyComplex : Json := wrap complexTag (.array [.number (.integer 1), .bool true])

theorem builtin_pack_makes_plain_values_nested :
    (infiniteInSet.Valid ∧
      ∃ v, decode builtinPack infiniteInSet = .ok v ∧ v.toJson? = none ∧
        v.at? [.item 1, .item 0, .item 1] = some (.float (Binary64.infinity false)) ∧
        ∃ w, v.at? [.item 1, .item 0] = some w ∧ Unwraps complexTag
          (.array [.number (.integer 1), wrap floatTag (.string "inf".toList)]) w) ∧
    partlyComplex.Valid ∧ ∃ e, decode builtinPack partlyComplex = .error e ∧
      ∃ p tag inner, partlyComplex.WrapperAt p tag inner ∧ Faulty tag inner e := by
  have hone : (Json.number (.integer 1)).Valid := by
    refine valid_of_children (fun n hn => ?_) nofun trivial nofun
    cases hn
    decide
  have hleaf : ∀ t, (Json.string t).Valid := fun t => valid_of_children nofun nofun trivial nofun
  have hnull : Json.null.Valid := valid_of_children nofun nofun trivial nofun
  have hbool : (Json.bool true).Valid := valid_of_children nofun nofun trivial nofun
  have hset : infiniteInSet.Valid := by
    have hpair := valid_array (List.forall_mem_cons.2
      ⟨hone, List.forall_mem_singleton.2 (valid_wrap floatTag (hleaf "inf".toList))⟩)
    have hitems := valid_array (List.forall_mem_singleton.2 (valid_wrap complexTag hpair))
    exact valid_array (List.forall_mem_cons.2 ⟨hnull, List.forall_mem_singleton.2
      (valid_wrap _ hitems)⟩)
  have hpartly : partlyComplex.Valid := valid_wrap _ (valid_array
    (List.forall_mem_cons.2 ⟨hone, List.forall_mem_singleton.2 hbool⟩))
  obtain ⟨hplain, -, -⟩ := builtin_pack_makes_plain_values hset
  obtain ⟨-, hfaulty, -⟩ := builtin_pack_makes_plain_values hpartly
  obtain ⟨v, hv⟩ : ∃ v, decode builtinPack infiniteInSet = .ok v := ⟨_, rfl⟩
  obtain ⟨e, he⟩ : ∃ e, decode builtinPack partlyComplex = .error e := ⟨_, rfl⟩
  obtain ⟨-, hunwrapped, -, -, hform⟩ := hplain v hv
  have hmentions : infiniteInSet.Mentions floatTag :=
    ⟨[.item 1, .field valueKey, .item 0, .field valueKey, .item 1], .string "inf".toList, rfl⟩
  have hnone : v.toJson? = none := by
    rw [← Option.not_isSome_iff_eq_none]
    exact fun hsome => hform.1 hsome hmentions
  have hinfinite : v.at? [.item 1, .item 0, .item 1] =
      some (.float (Binary64.infinity false)) := by
    cases hv
    rfl
  refine ⟨⟨hset, v, hv, hnone, hinfinite, ?_⟩, hpartly, e, he, hfaulty e he⟩
  exact hunwrapped [.item 1, .field valueKey, .item 0] complexTag _ rfl

end Decode

end RemoteInterpreter
