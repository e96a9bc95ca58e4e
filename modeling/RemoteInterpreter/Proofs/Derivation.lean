import RemoteInterpreter.Proofs.Refusal

/-!
# What is derived from a handle

The expression of an attribute, a subscript, an operation or a negation is read back as what was
meant, whatever the name or the key holds.
-/

namespace RemoteInterpreter

/-- A name is an attribute, any other text a key. -/
def Term.member (of : Term) (s : Text) : Term :=
  if isName s then .attribute of s else .subscript of (.str s)

/-- A text is a member, anything else a key. -/
def Term.item (of : Term) : Term → Term
  | .str s => of.member s
  | x => .subscript of x

theorem Term.member_injective {of : Term} {s t : Text} (h : of.member s = of.member t) : s = t := by
  unfold member at h
  split at h <;> split at h <;> cases h <;> rfl

theorem Term.item_injective {of x y : Term} (h : of.item x = of.item y) : x = y := by
  have hkey : ∀ {s : Text} {z : Term}, (∀ t, z ≠ .str t) → of.member s ≠ .subscript of z := by
    intro s z hz heq
    unfold member at heq
    split at heq
    · cases heq
    · cases heq
      exact hz s rfl
  unfold item at h
  split at h <;> split at h
  · rw [member_injective h]
  · next hz => exact absurd h (hkey hz)
  · next hz _ _ => exact absurd h.symm (hkey hz)
  · cases h
    rfl

namespace Arg

variable {a : Arg} {x : Term} {word : Text}

theorem read?_subscript (hword : Identifier.isName word = true) (ha : a.term? = some x)
    (hnamed : a.Named) :
    Term.read? (word ++ ('[' :: a.render ++ [']'])) = some (.subscript (.name word) x) := by
  have hends := Term.ends_cons (c := ']') (by decide) []
  have hkey : ∀ n, 4 * a.render.length ≤ n →
      Term.readTerm (n + 1) (a.render ++ [']']) = some (x, [']']) := fun n hn =>
    Term.readTerm_of_readOperand (readOperand_render a ha hnamed hends.settled hn) hends
  have htrail := Term.readTrail_subscript
    (hkey (4 * (word ++ ('[' :: a.render ++ [']'])).length) (by simp; omega))
    Term.ends_nil.settled (.name word)
  exact Term.read?_of_readOperand (Term.readOperand_of_readTrail (Term.head?_name hword _)
    (Term.readAtom_name hword (by simp; decide) _) htrail)

theorem read?_binary (hword : Identifier.isName word = true) (ha : a.term? = some x)
    (hnamed : a.Named) (op : Operator) :
    Term.read? ('(' :: (word ++ ' ' :: op.symbol :: ' ' :: a.render ++ [')'])) =
      some (.binary (.name word) op x) := by
  have hends := Term.ends_cons (c := ')') (by decide) []
  have hopens := (Term.opens_name hword).append (' ' :: op.symbol :: ' ' :: a.render)
  have hread : ∀ n, 4 * a.render.length ≤ n →
      Term.readTerm (n + 3) (word ++ ' ' :: op.symbol :: ' ' :: (a.render ++ [')'])) =
        some (.binary (.name word) op x, [')']) := fun n hn =>
    Term.readTerm_symbol (Term.readOperand_name hword (Term.settled_symbol op _) n)
      (readOperand_render a ha hnamed hends.settled (by omega)) hends
  refine Term.read?_group hopens ?_
  simpa using hread (4 * (word ++ ' ' :: op.symbol :: ' ' :: a.render).length + 6) (by simp; omega)

end Arg

theorem Term.read?_negated {word : Text} (hword : Identifier.isName word = true) :
    Term.read? ('(' :: ('-' :: word ++ [')'])) = some (.negated (.name word)) := by
  have hends := Term.ends_cons (c := ')') (by decide) []
  have hopens : Term.Opens ('-' :: word) := ⟨_, _, rfl, by decide⟩
  exact Term.read?_group hopens (Term.readTerm_of_readOperand
    (Term.readOperand_minus (Term.readOperand_name hword hends.settled _)) hends)

/-! What is composed -/

namespace Expression

variable {session : Nat} {d : Draft}

/-- Plain arguments between fragments of one line. -/
theorem compose_of_plain (hlength : d.fragments.length = d.args.length + 1)
    (hfragments : d.fragments.any Text.breaksLine = false) (hargs : ∀ a ∈ d.args, a.Plain)
    (hsession : ∀ h ∈ Arg.handlesOfItems d.args, h.session = session)
    (hnamed : ∀ h ∈ Arg.handlesOfItems d.args, Identifier.isName h.name = true) :
    ∃ uses, compose session d = .ok ⟨interleave d.fragments d.args, uses⟩ := by
  have hline := breaksLine_interleave hlength hnamed
  rw [hfragments, Arg.Plain.rawsOfItems d.args hargs] at hline
  exact ⟨_, compose_eq_ok_iff.2 ⟨hlength, hsession, hline, rfl⟩⟩

end Expression

namespace Program

variable {w : Program} {as : List Action} {stem : Nat → Text} {debug : Nat → Bool}
variable {running : Bool} {c : Construction} {h : Handle}

/-- The source of the handle that a building operation gives, unless it is refused. -/
def source? (w : Program) (running : Bool) (c : Construction) : Option Text :=
  match w.construct running c with
  | (v, .ok h) => ((v.session h.session).bindings h.number).map (·.expression.source)
  | (_, .error _) => none

def tree? (w : Program) (running : Bool) (c : Construction) : Option Term :=
  (w.source? running c).bind Term.read?

theorem source?_eq_some_iff {source : Text} : w.source? running c = some source ↔
    ∃ x, w.Builds running c x ∧ x.source = source := by
  unfold source? Builds
  rcases w.construct running c with ⟨v, e | h⟩
  · simp
  · simp only [Option.map_eq_some_iff, Prod.mk.injEq, Except.ok.injEq]
    constructor
    · rintro ⟨b, hb, hsource⟩
      exact ⟨_, ⟨v, h, b, ⟨rfl, rfl⟩, hb, rfl⟩, hsource⟩
    · rintro ⟨x, ⟨v', h', b, ⟨rfl, rfl⟩, hb, rfl⟩, hsource⟩
      exact ⟨b, hb, hsource⟩

theorem source?_of_compose (hopen : Opened stem debug w) (as : List Action) {d : Draft}
    {x : Expression} (hd : c.draft = .ok d) (hx : Expression.compose c.session d = .ok x) :
    (w.run as).source? running c = some x.source := by
  have hcomposed := Construction.composed_eq_ok_iff.2 ⟨d, hd, hx⟩
  exact source?_eq_some_iff.2 ⟨x, (builds_iff hopen as).2 hcomposed, rfl⟩

/-- What is refused has no source. -/
theorem source?_of_foreign (hopen : Opened stem debug w) (as : List Action) {d : Draft}
    (hd : c.draft = .ok d) {k : Handle} (hk : k ∈ Arg.handlesOfItems d.args)
    (hforeign : k.session ≠ c.session) : (w.run as).source? running c = none := by
  refine Option.eq_none_iff_forall_not_mem.2 fun source hsource => ?_
  obtain ⟨x, hbuilds, -⟩ := source?_eq_some_iff.1 hsource
  obtain ⟨d', hd', hx⟩ := Construction.composed_eq_ok_iff.1 ((builds_iff hopen as).1 hbuilds)
  cases hd.symm.trans hd'
  exact hforeign (Expression.session_of_compose hx hk)

/-- What may stand beside a handle: a plain argument whose handles were built in its session. -/
structure Fits (w : Program) (as : List Action) (h : Handle) (key : Arg) : Prop where
  plain : key.Plain
  handles : ∀ k ∈ key.handles, k ∈ w.handles as ∧ k.session = h.session

namespace Fits

variable {key a b : Arg} {x : Term}

theorem str (s : Text) : Fits w as h (.str s) := ⟨.str s, nofun⟩

theorem named (hopen : Opened stem debug w) (hkey : Fits w as h key) : key.Named :=
  named_of_handles hopen fun k hk => (hkey.handles k hk).1

/-- In one session handles are told apart by their variables. -/
theorem distinguished (hopen : Opened stem debug w) (ha : Fits w as h a) (hb : Fits w as h b) :
    Arg.Distinguished a.handles b.handles := by
  intro i hi k hk hname
  obtain ⟨hbuilt, hsession⟩ := ha.handles i hi
  obtain ⟨kbuilt, ksession⟩ := hb.handles k hk
  have hstem := ((mem_handles_iff hopen).1 hbuilt).1
  have kstem := ((mem_handles_iff hopen).1 kbuilt).1
  have hsame : i.same k = true := by simp [Handle.same, hsession, ksession, hname]
  exact (Handle.same_iff fun hs => by rw [hstem, kstem, hs]).1 hsame

end Fits

section

variable (hopen : Opened stem debug w) (hh : h ∈ w.handles as)
include hopen hh

/-- A handle and one more argument, in a session that has both. -/
theorem source?_of_fits {d : Draft} {args : List Arg} (hd : c.draft = .ok d)
    (hsession : c.session = h.session) (hargs : d.args = .handle h :: args)
    (hfits : ∀ key ∈ args, Fits w as h key) (hlength : d.fragments.length = args.length + 2)
    (hfragments : d.fragments.any Text.breaksLine = false) :
    (w.run as).source? running c = some (Expression.interleave d.fragments d.args) := by
  have hhandles : ∀ k ∈ Arg.handlesOfItems d.args, k ∈ w.handles as ∧ k.session = h.session := by
    intro k hk
    rw [hargs] at hk
    obtain ⟨key, hkey, hk⟩ := Arg.mem_handlesOfItems.1 hk
    rcases List.mem_cons.1 hkey with rfl | hkey
    · obtain rfl := List.mem_singleton.1 hk
      exact ⟨hh, rfl⟩
    · exact (hfits key hkey).handles k hk
  have hplain : ∀ a ∈ d.args, a.Plain := by
    rw [hargs]
    exact List.forall_mem_cons.2 ⟨.handle h, fun key hkey => (hfits key hkey).plain⟩
  obtain ⟨uses, hx⟩ : ∃ uses, Expression.compose c.session d =
      .ok ⟨Expression.interleave d.fragments d.args, uses⟩ :=
    Expression.compose_of_plain (by simp [hargs, hlength]) hfragments hplain
      (fun k hk => (hhandles k hk).2.trans hsession.symm)
      (fun k hk => isName_of_mem_handles hopen (hhandles k hk).1)
  exact source?_of_compose hopen as hd hx

theorem source?_attr (running : Bool) (s : Text) : (w.run as).source? running (.attr h s) =
    some (h.name ++ if Identifier.isName s then '.' :: s else '[' :: Literal.quote s ++ [']']) := by
  by_cases hs : Identifier.isName s = true
  · have hline := Identifier.breaksLine_of_isName hs
    have hd : (Construction.attr h s).draft = .ok (Draft.onHandle h ['.' :: s] []) := by
      rw [Construction.draft, Draft.attr, if_pos hs]
    rw [source?_of_fits hopen hh hd rfl rfl (by simp) rfl (by simp [Draft.onHandle, hline])]
    simp [Draft.onHandle, Expression.interleave, Arg.render, hs]
  · have hd : (Construction.attr h s).draft =
        .ok (Draft.onHandle h ['[' :: Literal.quote s ++ [']']] []) := by
      rw [Construction.draft, Draft.attr, if_neg hs]
    rw [source?_of_fits hopen hh hd rfl rfl (by simp) rfl (by simp [Draft.onHandle])]
    simp [Draft.onHandle, Expression.interleave, Arg.render, hs]

theorem source?_negated (running : Bool) :
    (w.run as).source? running (.negated h) = some ('(' :: ('-' :: h.name ++ [')'])) := by
  rw [source?_of_fits hopen hh rfl rfl rfl (by simp) rfl rfl]
  simp [Draft.negated, Expression.interleave, Arg.render]

theorem tree?_attr (running : Bool) (s : Text) :
    (w.run as).tree? running (.attr h s) = some (Term.member (.name h.name) s) := by
  have hname := isName_of_mem_handles hopen hh
  rw [tree?, source?_attr hopen hh, Option.bind_some, Term.member, Term.isName_eq]
  split
  · next hs => exact Term.read?_attribute hname hs
  · exact Arg.read?_subscript (a := .str s) hname rfl nofun

theorem tree?_negated (running : Bool) :
    (w.run as).tree? running (.negated h) = some (.negated (.name h.name)) := by
  rw [tree?, source?_negated hopen hh]
  exact Term.read?_negated (isName_of_mem_handles hopen hh)

variable {key : Arg} {x : Term} (hkey : Fits w as h key)
include hkey

theorem source?_of_subscript (hd : c.draft = .ok (.subscript h key))
    (hsession : c.session = h.session) :
    (w.run as).source? running c = some (h.name ++ ('[' :: key.render ++ [']'])) := by
  rw [source?_of_fits hopen hh hd hsession rfl (by simpa using hkey) rfl rfl]
  simp [Draft.subscript, Draft.onHandle, Expression.interleave, Arg.render]

theorem source?_binary (running : Bool) (op : Operator) :
    (w.run as).source? running (.binary h op key) =
      some ('(' :: (h.name ++ ' ' :: op.symbol :: ' ' :: key.render ++ [')'])) := by
  have hfragments : (Draft.binary h op key).fragments.any Text.breaksLine = false := by
    cases op <;> rfl
  rw [source?_of_fits hopen hh rfl rfl rfl (by simpa using hkey) rfl hfragments]
  simp [Draft.binary, Expression.interleave, Arg.render]

variable (hx : key.term? = some x)
include hx

theorem tree?_of_subscript (hd : c.draft = .ok (.subscript h key))
    (hsession : c.session = h.session) :
    (w.run as).tree? running c = some (.subscript (.name h.name) x) := by
  rw [tree?, source?_of_subscript hopen hh hkey hd hsession]
  exact Arg.read?_subscript (isName_of_mem_handles hopen hh) hx (hkey.named hopen)

theorem tree?_item (running : Bool) :
    (w.run as).tree? running (.item h key) = some (Term.item (.name h.name) x) := by
  have hsubscript : (Draft.item h key = .subscript h key) →
      (w.run as).tree? running (.item h key) = some (.subscript (.name h.name) x) := fun hd =>
    tree?_of_subscript hopen hh hkey hx (congrArg Except.ok hd) rfl
  cases key with
  | str s =>
    cases hx
    by_cases hs : Identifier.isName s = true
    · have hattr : (Construction.item h (.str s)).draft = (Construction.attr h s).draft := by
        simp [Construction.draft, Draft.item, hs]
      have hsame : (w.run as).tree? running (.item h (.str s)) =
          (w.run as).tree? running (.attr h s) := by
        unfold tree? source? construct
        rw [hattr]
        rfl
      rw [hsame, tree?_attr hopen hh]
      rfl
    · rw [hsubscript (by simp [Draft.item, hs])]
      simp [Term.item, Term.member, Term.isName_eq, hs]
  | list | tuple | map =>
    obtain ⟨xs, -, rfl⟩ := Option.map_eq_some_iff.1 hx
    exact hsubscript rfl
  | _ => cases hx <;> exact hsubscript rfl

theorem tree?_binary (running : Bool) (op : Operator) :
    (w.run as).tree? running (.binary h op key) = some (.binary (.name h.name) op x) := by
  rw [tree?, source?_binary hopen hh hkey]
  exact Arg.read?_binary (isName_of_mem_handles hopen hh) hx (hkey.named hopen) op

end

/-- Builders cannot be broken out of. Whatever a name or a plain key holds, the expression is built
and read back as the member, the item, the operation or the negation that was meant, and as nothing
else; only a handle of another session is refused. So different names, keys and operations on one
handle have different expressions. -/
theorem derivations_read_back (hopen : Opened stem debug w) (hh : h ∈ w.handles as)
    (running : Bool) :
    (∀ s, (w.run as).tree? running (.attr h s) = some (Term.member (.name h.name) s)) ∧
    (∀ key, Fits w as h key → ∃ x, key.term? = some x ∧
      (w.run as).tree? running (.index h key) = some (.subscript (.name h.name) x) ∧
      (w.run as).tree? running (.item h key) = some (Term.item (.name h.name) x) ∧
      ∀ op, (w.run as).tree? running (.binary h op key) = some (.binary (.name h.name) op x)) ∧
    (w.run as).tree? running (.negated h) = some (.negated (.name h.name)) ∧
    (∀ key, (∃ k ∈ key.handles, k.session ≠ h.session) →
      (w.run as).source? running (.index h key) = none ∧
      (w.run as).source? running (.item h key) = none ∧
      ∀ op, (w.run as).source? running (.binary h op key) = none) ∧
    (∀ s t, (w.run as).source? running (.attr h s) = (w.run as).source? running (.attr h t) →
      s = t) ∧
    ∀ a b, Fits w as h a → Fits w as h b →
      ((w.run as).source? running (.index h a) = (w.run as).source? running (.index h b) →
        a = b) ∧
      ((w.run as).source? running (.item h a) = (w.run as).source? running (.item h b) → a = b) ∧
      ∀ op op', (w.run as).source? running (.binary h op a) =
        (w.run as).source? running (.binary h op' b) → op = op' ∧ a = b := by
  -- what has one source has one tree
  have htree : ∀ {c d : Construction}, (w.run as).source? running c = (w.run as).source? running d →
      (w.run as).tree? running c = (w.run as).tree? running d :=
    fun hsource => congrArg (Option.bind · Term.read?) hsource
  refine ⟨tree?_attr hopen hh running, ?_, tree?_negated hopen hh running, ?_, ?_, ?_⟩
  · intro key hkey
    obtain ⟨x, hx⟩ := hkey.plain.term?
    exact ⟨x, hx, tree?_of_subscript hopen hh hkey hx rfl rfl, tree?_item hopen hh hkey hx running,
      tree?_binary hopen hh hkey hx running⟩
  · rintro key ⟨k, hk, hforeign⟩
    refine ⟨source?_of_foreign hopen as rfl (Draft.mem_handles_subscript.2 (.inr hk)) hforeign,
      source?_of_foreign hopen as rfl (Draft.mem_handles_item.2 (.inr hk)) hforeign, fun op => ?_⟩
    exact source?_of_foreign hopen as (d := .binary h op key) rfl
      (by simp [Draft.binary, Arg.handlesOfItems, hk]) hforeign
  · intro s t hsource
    have h := htree hsource
    rw [tree?_attr hopen hh, tree?_attr hopen hh] at h
    exact Term.member_injective (Option.some.inj h)
  · intro a b ha hb
    obtain ⟨x, hx⟩ := ha.plain.term?
    obtain ⟨y, hy⟩ := hb.plain.term?
    have hsame : x = y → a = b := fun heq =>
      Arg.eq_of_term? a b hx (heq ▸ hy) (ha.distinguished hopen hb)
    refine ⟨fun hsource => ?_, fun hsource => ?_, fun op op' hsource => ?_⟩
    · have h := htree hsource
      rw [tree?_of_subscript hopen hh ha hx rfl rfl, tree?_of_subscript hopen hh hb hy rfl rfl] at h
      cases h
      exact hsame rfl
    · have h := htree hsource
      rw [tree?_item hopen hh ha hx, tree?_item hopen hh hb hy] at h
      exact hsame (Term.item_injective (Option.some.inj h))
    · have h := htree hsource
      rw [tree?_binary hopen hh ha hx, tree?_binary hopen hh hb hy] at h
      cases h
      exact ⟨rfl, hsame rfl⟩

/-- A name that would end its subscript and go on with a call. -/
def callingName : Text := ['"', ']', '(', ')', '\n']

theorem derivations_read_back_callingName :
    Opened (fun _ => ['i', 'f']) (fun _ => false) branching ∧
    (⟨0, ['i', 'f'], 0⟩ : Handle) ∈ branching.handles branchingActions ∧
    Fits branching branchingActions ⟨0, ['i', 'f'], 0⟩ (.handle ⟨0, ['i', 'f'], 1⟩) ∧
    (branching.run branchingActions).tree? true (.attr ⟨0, ['i', 'f'], 0⟩ callingName) =
      some (.subscript (.name ['i', 'f', '0']) (.str callingName)) ∧
    (branching.run branchingActions).tree? true
        (.binary ⟨0, ['i', 'f'], 0⟩ .mod (.handle ⟨0, ['i', 'f'], 1⟩)) =
      some (.binary (.name ['i', 'f', '0']) .mod (.name ['i', 'f', '1'])) ∧
    (branching.run branchingActions).source? true
        (.index ⟨0, ['i', 'f'], 0⟩ (.handle ⟨1, ['i', 'f'], 0⟩)) = none := by
  have hopen : Opened (fun _ => ['i', 'f']) (fun _ => false) branching := fun _ => rfl
  have hh : (⟨0, ['i', 'f'], 0⟩ : Handle) ∈ branching.handles branchingActions := by decide +kernel
  have hfits : Fits branching branchingActions ⟨0, ['i', 'f'], 0⟩ (.handle ⟨0, ['i', 'f'], 1⟩) :=
    ⟨.handle _, by decide +kernel⟩
  obtain ⟨hattr, hkeys, -, hforeign, -⟩ := derivations_read_back hopen hh true
  obtain ⟨x, hx, -, -, hbinary⟩ := hkeys _ hfits
  cases hx
  exact ⟨hopen, hh, hfits, hattr callingName, hbinary .mod,
    (hforeign (.handle ⟨1, ['i', 'f'], 0⟩) (by decide)).1⟩

end Program

end RemoteInterpreter
