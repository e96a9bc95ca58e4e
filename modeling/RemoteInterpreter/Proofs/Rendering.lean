import RemoteInterpreter.Proofs.Construction
import RemoteInterpreter.Proofs.Term

/-!
# Rendered arguments

An argument without floats and pasted text is written as a term, and is read back as this term
whatever stands behind it, as long as that ends a term.
-/

namespace RemoteInterpreter

namespace Arg

mutual

/-- What an argument is read back as. Floats and pasted text are none of the literals. -/
def term? : Arg → Option Term
  | .null => some .null
  | .bool b => some (.bool b)
  | .int n => some (.int n)
  | .float _ => none
  | .str s => some (.str s)
  | .list items => (termsOfItems? items).map .list
  | .tuple items => (termsOfItems? items).map .tuple
  | .map entries => (termsOfEntries? entries).map .map
  | .handle h => some (.name h.name)
  | .raw _ => none

def termsOfItems? : List Arg → Option (List Term)
  | [] => some []
  | item :: rest => do
    let x ← term? item
    let xs ← termsOfItems? rest
    return x :: xs

def termsOfEntries? : List (Arg × Arg) → Option (List (Term × Term))
  | [] => some []
  | (key, value) :: rest => do
    let x ← term? key
    let y ← term? value
    let xs ← termsOfEntries? rest
    return (x, y) :: xs

end

/-- The variables of all handles can be written bare. -/
def Named (a : Arg) : Prop := ∀ h ∈ a.handles, Identifier.isName h.name = true

theorem termsOfItems?_cons {item : Arg} {rest : List Arg} {xs : List Term} :
    termsOfItems? (item :: rest) = some xs ↔
      ∃ x ys, item.term? = some x ∧ termsOfItems? rest = some ys ∧ xs = x :: ys := by
  simp [termsOfItems?, Option.bind_eq_some_iff]
  grind

theorem termsOfEntries?_cons {key value : Arg} {rest : List (Arg × Arg)}
    {xs : List (Term × Term)} :
    termsOfEntries? ((key, value) :: rest) = some xs ↔
      ∃ x y ys, key.term? = some x ∧ value.term? = some y ∧ termsOfEntries? rest = some ys ∧
        xs = (x, y) :: ys := by
  simp [termsOfEntries?, Option.bind_eq_some_iff]
  grind

/-- A rendered argument begins neither with a blank nor with what ends a term. -/
theorem opens_render {a : Arg} {x : Term} (ha : a.term? = some x) (hnamed : a.Named) :
    Term.Opens a.render := by
  cases a with
  | null => exact ⟨_, _, rfl, by decide⟩
  | bool b => cases b <;> exact ⟨_, _, rfl, by decide⟩
  | int n =>
    cases n with
    | negSucc k => exact ⟨_, _, rfl, by decide⟩
    | ofNat k =>
      obtain ⟨c, t, hwrite, hdigit⟩ := Term.exists_write_eq k
      exact ⟨c, t, hwrite, Term.opens_class hdigit (by decide)⟩
  | float => cases ha
  | str s => exact ⟨_, _, rfl, by decide⟩
  | list items => exact ⟨_, _, rfl, by decide⟩
  | tuple items =>
    match items with
    | [] => exact ⟨_, _, rfl, by decide⟩
    | [_] => exact ⟨_, _, rfl, by decide⟩
    | _ :: _ :: _ => exact ⟨_, _, rfl, by decide⟩
  | map entries => exact ⟨_, _, rfl, by decide⟩
  | handle h => exact Term.opens_name (hnamed h List.mem_cons_self)
  | raw => cases ha

theorem length_render_pos {a : Arg} {x : Term} (ha : a.term? = some x) (hnamed : a.Named) :
    0 < a.render.length := by
  obtain ⟨c, t, hrender, -⟩ := opens_render ha hnamed
  simp [hrender]

theorem handlesOfItems_cons {item : Arg} {items : List Arg}
    (h : ∀ h ∈ handlesOfItems (item :: items), Identifier.isName h.name = true) :
    item.Named ∧ ∀ h ∈ handlesOfItems items, Identifier.isName h.name = true :=
  ⟨fun k hk => h k (List.mem_append_left _ hk), fun k hk => h k (List.mem_append_right _ hk)⟩

theorem handlesOfEntries_cons {key value : Arg} {entries : List (Arg × Arg)}
    (h : ∀ h ∈ handlesOfEntries ((key, value) :: entries), Identifier.isName h.name = true) :
    key.Named ∧ value.Named ∧ ∀ h ∈ handlesOfEntries entries, Identifier.isName h.name = true := by
  simp only [handlesOfEntries, List.mem_append] at h
  exact ⟨fun k hk => h k (Or.inl (Or.inl hk)), fun k hk => h k (Or.inl (Or.inr hk)),
    fun k hk => h k (Or.inr hk)⟩

mutual

theorem readOperand_render (a : Arg) {x : Term} {rest : Text} {n : Nat} (ha : a.term? = some x)
    (hnamed : a.Named) (hrest : Term.Settled rest) (hn : 4 * a.render.length ≤ n) :
    Term.readOperand n (a.render ++ rest) = some (x, rest) := by
  -- every character pays for four calls, and each bracket for those down to what is inside
  have hpos := length_render_pos ha hnamed
  have hword : ∀ c ∈ rest.head?, Identifier.isPart c = false := fun c hc => (hrest.token c hc).1
  obtain ⟨m, rfl⟩ : ∃ m, n = m + 3 := ⟨n - 3, by omega⟩
  match a with
  | .null =>
    cases ha
    exact Term.readOperand_of_readAtom (by simp [render]; decide)
      (Term.readAtom_word (by decide) (Term.readWord?_reserved hword).1 _) hrest
  | .bool true =>
    cases ha
    exact Term.readOperand_of_readAtom (by simp [render]; decide)
      (Term.readAtom_word (by decide) (Term.readWord?_reserved hword).2.1 _) hrest
  | .bool false =>
    cases ha
    exact Term.readOperand_of_readAtom (by simp [render]; decide)
      (Term.readAtom_word (by decide) (Term.readWord?_reserved hword).2.2 _) hrest
  | .int (.ofNat k) =>
    cases ha
    exact Term.readOperand_numeral hrest k _
  | .int (.negSucc k) =>
    cases ha
    exact Term.readOperand_minus (Term.readOperand_numeral hrest (k + 1) _)
  | .str s =>
    cases ha
    exact Term.readOperand_of_readAtom (by simp [render, Literal.quote]; decide)
      (Term.readAtom_quoted hrest s _) hrest
  | .list items =>
    obtain ⟨xs, hxs, rfl⟩ := Option.map_eq_some_iff.1 ha
    have hlength : (render (.list items)).length = (renderItems items).length + 2 := by
      simp [render]
    have hitems : Term.readItems (m + 1) ']' (renderItems items ++ ']' :: rest) = some (xs, rest) :=
      readItems_render items hxs hnamed (by decide) (by decide) (by omega)
    refine Term.readOperand_of_readAtom (by simp [render]; decide) ?_ hrest
    simpa [render] using Term.readAtom_list hitems
  | .tuple [] =>
    cases ha
    exact Term.readOperand_of_readAtom (by simp [render]; decide) (Term.readAtom_unit _) hrest
  | .tuple [item] =>
    obtain ⟨xs, hxs, rfl⟩ := Option.map_eq_some_iff.1 ha
    obtain ⟨x, ys, hx, hys, rfl⟩ := termsOfItems?_cons.1 hxs
    cases hys
    obtain ⟨hitem, -⟩ := handlesOfItems_cons hnamed
    have hlength : (render (.tuple [item])).length = (render item).length + 3 := by
      simp [render]
    have hends := Term.ends_cons (c := ',') (by decide) (')' :: rest)
    have hread := readOperand_render item (n := m) hx hitem hends.settled (by omega)
    have hatom := Term.readAtom_tuple ((opens_render hx hitem).append _)
      (Term.readTerm_of_readOperand hread hends) (Term.readItems_nil (by decide) m)
    refine Term.readOperand_of_readAtom (by simp [render]; decide) ?_ hrest
    simpa [render] using hatom
  | .tuple (item :: next :: items) =>
    obtain ⟨xs, hxs, rfl⟩ := Option.map_eq_some_iff.1 ha
    obtain ⟨x, ys, hx, hys, rfl⟩ := termsOfItems?_cons.1 hxs
    obtain ⟨hitem, hnext⟩ := handlesOfItems_cons hnamed
    have hrender : render (.tuple (item :: next :: items)) =
        '(' :: (render item ++ ',' :: renderItems (next :: items) ++ [')']) := rfl
    have hlength := congrArg List.length hrender
    simp only [List.length_cons, List.length_append, List.length_nil] at hlength
    have hends := Term.ends_cons (c := ',') (by decide) (renderItems (next :: items) ++ ')' :: rest)
    have hread := readOperand_render item (n := m) hx hitem hends.settled (by omega)
    have hitems : Term.readItems (m + 1) ')' (renderItems (next :: items) ++ ')' :: rest) =
        some (ys, rest) :=
      readItems_render (next :: items) hys hnext (by decide) (by decide) (by omega)
    have hatom := Term.readAtom_tuple ((opens_render hx hitem).append _)
      (Term.readTerm_of_readOperand hread hends) hitems
    rw [hrender]
    refine Term.readOperand_of_readAtom (by simp; decide) ?_ hrest
    simpa using hatom
  | .map entries =>
    obtain ⟨xs, hxs, rfl⟩ := Option.map_eq_some_iff.1 ha
    have hlength : (render (.map entries)).length = (renderEntries entries).length + 2 := by
      simp [render]
    have hentries : Term.readEntries (m + 1) (renderEntries entries ++ '\x7d' :: rest) =
        some (xs, rest) :=
      readEntries_render entries hxs hnamed (by omega)
    refine Term.readOperand_of_readAtom (by simp [render]; decide) ?_ hrest
    simpa [render] using Term.readAtom_map hentries
  | .handle h =>
    cases ha
    exact Term.readOperand_name (hnamed h (List.mem_singleton_self h)) hrest _
  | .float _ => cases ha
  | .raw _ => cases ha

theorem readItems_render (items : List Arg) {xs : List Term} {e : Char} {rest : Text} {n : Nat}
    (hitems : termsOfItems? items = some xs)
    (hnamed : ∀ h ∈ handlesOfItems items, Identifier.isName h.name = true)
    (hend : e ∈ Term.stops) (hcomma : e ≠ ',')
    (hn : 4 * (renderItems items).length + 2 ≤ n) :
    Term.readItems n e (renderItems items ++ e :: rest) = some (xs, rest) := by
  obtain ⟨m, rfl⟩ : ∃ m, n = m + 2 := ⟨n - 2, by omega⟩
  match items with
  | [] =>
    cases hitems
    exact Term.readItems_nil hend _
  | [item] =>
    obtain ⟨x, ys, hx, hys, rfl⟩ := termsOfItems?_cons.1 hitems
    cases hys
    obtain ⟨hitem, -⟩ := handlesOfItems_cons hnamed
    have hends := Term.ends_cons hend rest
    have hread := readOperand_render item (n := m) hx hitem hends.settled
      (by simpa [renderItems] using hn)
    exact Term.readItems_last ((opens_render hx hitem).append _) hend hcomma
      (Term.readTerm_of_readOperand hread hends)
  | item :: next :: items =>
    obtain ⟨x, ys, hx, hys, rfl⟩ := termsOfItems?_cons.1 hitems
    obtain ⟨hitem, hnext⟩ := handlesOfItems_cons hnamed
    have hrender : renderItems (item :: next :: items) =
        render item ++ ',' :: renderItems (next :: items) := rfl
    have hlength := congrArg List.length hrender
    simp only [List.length_cons, List.length_append] at hlength
    have hends := Term.ends_cons (c := ',') (by decide) (renderItems (next :: items) ++ e :: rest)
    have hread := readOperand_render item (n := m) hx hitem hends.settled (by omega)
    have htail : Term.readItems (m + 1) e (renderItems (next :: items) ++ e :: rest) =
        some (ys, rest) :=
      readItems_render (next :: items) hys hnext hend hcomma (by omega)
    rw [hrender, List.append_assoc]
    exact Term.readItems_cons ((opens_render hx hitem).append _) hend
      (Term.readTerm_of_readOperand hread hends) htail

theorem readEntries_render (entries : List (Arg × Arg)) {xs : List (Term × Term)} {rest : Text}
    {n : Nat} (hentries : termsOfEntries? entries = some xs)
    (hnamed : ∀ h ∈ handlesOfEntries entries, Identifier.isName h.name = true)
    (hn : 4 * (renderEntries entries).length + 2 ≤ n) :
    Term.readEntries n (renderEntries entries ++ '\x7d' :: rest) = some (xs, rest) := by
  obtain ⟨m, rfl⟩ : ∃ m, n = m + 2 := ⟨n - 2, by omega⟩
  match entries with
  | [] =>
    cases hentries
    exact Term.readEntries_nil _
  | (key, value) :: entries =>
    obtain ⟨x, y, ys, hx, hy, hys, rfl⟩ := termsOfEntries?_cons.1 hentries
    obtain ⟨hkey, hvalue, hnext⟩ := handlesOfEntries_cons hnamed
    have hlength : (render key).length + (render value).length + 2 ≤
        (renderEntries ((key, value) :: entries)).length := by
      cases entries <;> simp [renderEntries] <;> omega
    have hreadKey : ∀ t, Term.readOperand m (render key ++ ':' :: t) = some (x, ':' :: t) :=
      fun t => readOperand_render key hx hkey (Term.ends_cons (by decide) t).settled (by omega)
    have hreadValue : ∀ c ∈ Term.stops, ∀ t,
        Term.readOperand m (render value ++ c :: t) = some (y, c :: t) :=
      fun c hc t => readOperand_render value hy hvalue (Term.ends_cons hc t).settled (by omega)
    match entries with
    | [] =>
      cases hys
      have hread := Term.readEntries_last ((opens_render hx hkey).append _) (hreadKey _)
        (hreadValue '\x7d' (by decide) rest)
      simpa [renderEntries] using hread
    | next :: entries =>
      have hrender : renderEntries ((key, value) :: next :: entries) =
          render key ++ ':' :: ' ' :: render value ++ ',' :: renderEntries (next :: entries) := rfl
      have hshorter := congrArg List.length hrender
      simp only [List.length_cons, List.length_append] at hshorter
      have htail : Term.readEntries (m + 1) (renderEntries (next :: entries) ++ '\x7d' :: rest) =
          some (ys, rest) :=
        readEntries_render (next :: entries) hys hnext (by omega)
      have hread := Term.readEntries_cons ((opens_render hx hkey).append _) (hreadKey _)
        (hreadValue ',' (by decide) _) htail
      simpa [hrender] using hread

end

/-- What ends a term ends the argument. -/
theorem readFront?_render {a : Arg} {x : Term} {rest : Text} (ha : a.term? = some x)
    (hnamed : a.Named) (hrest : Term.Ends rest) :
    Term.readFront? (a.render ++ rest) = some (x, rest) := by
  have hread := readOperand_render a (n := 4 * (a.render ++ rest).length + 3) ha hnamed
    hrest.settled (by rw [List.length_append]; omega)
  exact Term.readTerm_of_readOperand hread hrest

theorem readFront?_parenthesised {a : Arg} {x : Term} {rest : Text} (ha : a.term? = some x)
    (hnamed : a.Named) (hrest : Term.Ends rest) :
    Term.readFront? ('(' :: a.render ++ ')' :: rest) = some (x, rest) := by
  have hclose := Term.ends_cons (c := ')') (by decide) rest
  have hread := readOperand_render a (n := 4 * ('(' :: a.render ++ ')' :: rest).length) ha hnamed
    hclose.settled (by simp; omega)
  have hatom := Term.readAtom_group ((opens_render ha hnamed).append _)
    (Term.readTerm_of_readOperand hread hclose)
  exact Term.readTerm_of_readOperand
    (Term.readOperand_of_readAtom (by simp; decide) hatom hrest.settled) hrest

/-! What can be written -/

/-- Built from the literals that can be read, from containers and from handles. -/
inductive Plain : Arg → Prop
  | null : Plain .null
  | bool (b) : Plain (.bool b)
  | int (n) : Plain (.int n)
  | str (s) : Plain (.str s)
  | list {items} (all : ∀ item ∈ items, Plain item) : Plain (.list items)
  | tuple {items} (all : ∀ item ∈ items, Plain item) : Plain (.tuple items)
  | map {entries} (keys : ∀ e ∈ entries, Plain e.1) (values : ∀ e ∈ entries, Plain e.2) :
    Plain (.map entries)
  | handle (h) : Plain (.handle h)

mutual

theorem Plain.term? : ∀ a : Arg, a.Plain → ∃ x, a.term? = some x
  | .null, _ => ⟨_, rfl⟩
  | .bool _, _ => ⟨_, rfl⟩
  | .int _, _ => ⟨_, rfl⟩
  | .str _, _ => ⟨_, rfl⟩
  | .list items, .list all => by
    obtain ⟨xs, hxs⟩ := Plain.termsOfItems? items all
    exact ⟨_, by rw [Arg.term?, hxs]; rfl⟩
  | .tuple items, .tuple all => by
    obtain ⟨xs, hxs⟩ := Plain.termsOfItems? items all
    exact ⟨_, by rw [Arg.term?, hxs]; rfl⟩
  | .map entries, .map keys values => by
    obtain ⟨xs, hxs⟩ := Plain.termsOfEntries? entries keys values
    exact ⟨_, by rw [Arg.term?, hxs]; rfl⟩
  | .handle _, _ => ⟨_, rfl⟩

theorem Plain.termsOfItems? : ∀ items : List Arg, (∀ item ∈ items, item.Plain) →
    ∃ xs, Arg.termsOfItems? items = some xs
  | [], _ => ⟨_, rfl⟩
  | item :: items, all => by
    obtain ⟨x, hx⟩ := Plain.term? item (all _ List.mem_cons_self)
    obtain ⟨xs, hxs⟩ := Plain.termsOfItems? items fun i hi => all i (List.mem_cons_of_mem _ hi)
    exact ⟨_, termsOfItems?_cons.2 ⟨x, xs, hx, hxs, rfl⟩⟩

theorem Plain.termsOfEntries? : ∀ entries : List (Arg × Arg), (∀ e ∈ entries, e.1.Plain) →
    (∀ e ∈ entries, e.2.Plain) → ∃ xs, Arg.termsOfEntries? entries = some xs
  | [], _, _ => ⟨_, rfl⟩
  | (key, value) :: entries, keys, values => by
    obtain ⟨x, hx⟩ := Plain.term? key (keys _ List.mem_cons_self)
    obtain ⟨y, hy⟩ := Plain.term? value (values _ List.mem_cons_self)
    obtain ⟨xs, hxs⟩ := Plain.termsOfEntries? entries
      (fun e he => keys e (List.mem_cons_of_mem _ he))
      fun e he => values e (List.mem_cons_of_mem _ he)
    exact ⟨_, termsOfEntries?_cons.2 ⟨x, y, xs, hx, hy, hxs, rfl⟩⟩

end

/-! What is told apart -/

/-- The handles are told apart by their variables. -/
def Distinguished (hs ks : List Handle) : Prop := ∀ h ∈ hs, ∀ k ∈ ks, h.name = k.name → h = k

theorem Distinguished.mono {hs ks hs' ks' : List Handle} (h : Distinguished hs ks)
    (left : ∀ h ∈ hs', h ∈ hs) (right : ∀ k ∈ ks', k ∈ ks) : Distinguished hs' ks' :=
  fun i hi k hk => h i (left i hi) k (right k hk)

mutual

/-- Nothing is lost in a term but whose handle it is. -/
theorem eq_of_term? (a b : Arg) {x : Term} (ha : a.term? = some x) (hb : b.term? = some x)
    (hnames : Distinguished a.handles b.handles) : a = b := by
  match a with
  | .null => cases ha; cases b <;> simp_all [Arg.term?]
  | .bool _ => cases ha; cases b <;> simp_all [Arg.term?]
  | .int _ => cases ha; cases b <;> simp_all [Arg.term?]
  | .float _ => cases ha
  | .str _ => cases ha; cases b <;> simp_all [Arg.term?]
  | .list items =>
    obtain ⟨xs, hxs, rfl⟩ := Option.map_eq_some_iff.1 ha
    cases b with
    | list others =>
      obtain ⟨ys, hys, heq⟩ := Option.map_eq_some_iff.1 hb
      cases heq
      rw [eq_of_termsOfItems? items others hxs hys hnames]
    | _ => simp [Arg.term?] at hb
  | .tuple items =>
    obtain ⟨xs, hxs, rfl⟩ := Option.map_eq_some_iff.1 ha
    cases b with
    | tuple others =>
      obtain ⟨ys, hys, heq⟩ := Option.map_eq_some_iff.1 hb
      cases heq
      rw [eq_of_termsOfItems? items others hxs hys hnames]
    | _ => simp [Arg.term?] at hb
  | .map entries =>
    obtain ⟨xs, hxs, rfl⟩ := Option.map_eq_some_iff.1 ha
    cases b with
    | map others =>
      obtain ⟨ys, hys, heq⟩ := Option.map_eq_some_iff.1 hb
      cases heq
      rw [eq_of_termsOfEntries? entries others hxs hys hnames]
    | _ => simp [Arg.term?] at hb
  | .handle h =>
    cases ha
    cases b with
    | handle k =>
      simp only [Arg.term?, Option.some.injEq, Term.name.injEq] at hb
      rw [hnames h List.mem_cons_self k List.mem_cons_self hb.symm]
    | _ => simp [Arg.term?] at hb
  | .raw _ => cases ha

theorem eq_of_termsOfItems? (items others : List Arg) {xs : List Term}
    (ha : termsOfItems? items = some xs) (hb : termsOfItems? others = some xs)
    (hnames : Distinguished (handlesOfItems items) (handlesOfItems others)) : items = others := by
  match items, others with
  | [], [] => rfl
  | [], _ :: _ =>
    obtain ⟨_, _, -, -, rfl⟩ := termsOfItems?_cons.1 hb
    cases ha
  | _ :: _, [] =>
    obtain ⟨_, _, -, -, rfl⟩ := termsOfItems?_cons.1 ha
    cases hb
  | a :: items, b :: others =>
    obtain ⟨x, xs, hx, hxs, rfl⟩ := termsOfItems?_cons.1 ha
    obtain ⟨y, ys, hy, hys, heq⟩ := termsOfItems?_cons.1 hb
    cases heq
    simp only [handlesOfItems] at hnames
    rw [eq_of_term? a b hx hy (hnames.mono (by grind) (by grind)),
      eq_of_termsOfItems? items others hxs hys (hnames.mono (by grind) (by grind))]

theorem eq_of_termsOfEntries? (entries others : List (Arg × Arg)) {xs : List (Term × Term)}
    (ha : termsOfEntries? entries = some xs) (hb : termsOfEntries? others = some xs)
    (hnames : Distinguished (handlesOfEntries entries) (handlesOfEntries others)) :
    entries = others := by
  match entries, others with
  | [], [] => rfl
  | [], (_, _) :: _ =>
    obtain ⟨_, _, _, -, -, -, rfl⟩ := termsOfEntries?_cons.1 hb
    cases ha
  | (_, _) :: _, [] =>
    obtain ⟨_, _, _, -, -, -, rfl⟩ := termsOfEntries?_cons.1 ha
    cases hb
  | (a, c) :: entries, (b, d) :: others =>
    obtain ⟨x, z, xs, hx, hz, hxs, rfl⟩ := termsOfEntries?_cons.1 ha
    obtain ⟨y, w, ys, hy, hw, hys, heq⟩ := termsOfEntries?_cons.1 hb
    cases heq
    simp only [handlesOfEntries] at hnames
    rw [eq_of_term? a b hx hy (hnames.mono (by grind) (by grind)),
      eq_of_term? c d hz hw (hnames.mono (by grind) (by grind)),
      eq_of_termsOfEntries? entries others hxs hys (hnames.mono (by grind) (by grind))]

end

/-- Arguments with one text are one term. -/
theorem eq_of_render_eq {a b : Arg} {x y : Term} (ha : a.term? = some x) (hb : b.term? = some y)
    (hnamed : a.Named) (hnamed' : b.Named) (h : a.render = b.render) : x = y := by
  have hx := readFront?_render ha hnamed Term.ends_nil
  rw [h, readFront?_render hb hnamed' Term.ends_nil] at hx
  cases hx
  rfl

theorem render_ofInt (n : Int) : (ofInt n).render = (toString n).toList := by
  have hwrite : Numeral.writeInt n = (toString n).toList := by
    cases n with
    | ofNat k => simp [Numeral.writeInt, Numeral.write, toString, Int.repr, Nat.repr]
    | negSucc k => simp [Numeral.writeInt, Numeral.write, toString, Int.repr, Nat.repr]
  unfold ofInt
  split <;> exact hwrite

/-- A tuple of one item is not this item in parentheses. -/
theorem render_singleton_ne {a : Arg} (ha : a.Plain) (hnamed : a.Named) :
    (Arg.tuple [a]).render ≠ '(' :: a.render ++ [')'] := by
  obtain ⟨x, hx⟩ := ha.term?
  have htuple : (Arg.tuple [a]).term? = some (.tuple [x]) := by
    simp [term?, termsOfItems?, hx]
  have hsingle : (Arg.tuple [a]).Named := by
    simpa [Named, handles, handlesOfItems] using hnamed
  have hread := readFront?_render htuple hsingle Term.ends_nil
  have hgroup := readFront?_parenthesised hx hnamed Term.ends_nil
  intro heq
  rw [List.append_nil, heq, hgroup] at hread
  have hsize := congrArg (fun p => p.map fun q : Term × Text => sizeOf q.1) hread
  simp at hsize
  omega

end Arg

namespace Program

variable {w : Program} {as : List Action} {stem : Nat → Text} {debug : Nat → Bool}

theorem isName_of_mem_handles (hopen : Opened stem debug w) {h : Handle} (hh : h ∈ w.handles as) :
    Identifier.isName h.name = true := by
  obtain ⟨hstem, -⟩ := (mem_handles_iff hopen).1 hh
  have hidentifier := Session.isIdentifier_opened (hopen h.session)
  rw [Session.eq_of_opened (hopen h.session)] at hidentifier
  exact Handle.isName_name (hstem ▸ hidentifier)

/-- Whatever handles of a program are passed, they can be written. -/
theorem named_of_handles (hopen : Opened stem debug w) {a : Arg}
    (ha : ∀ h ∈ a.handles, h ∈ w.handles as) : a.Named :=
  fun h hh => isName_of_mem_handles hopen (ha h hh)

/-- Literals read back. A plain argument whose handles are handles of the program is read back in
front of whatever ends a term, as itself with each handle as its variable, and likewise in
parentheses. So different arguments have different texts, up to the handles of one name; a tuple of
one item and the empty containers are kept apart as well. An integer is written in decimal and read
back whatever its size is. -/
theorem literals_read_back (hopen : Opened stem debug w) (as : List Action) :
    (∀ a : Arg, a.Plain → (∀ h ∈ a.handles, h ∈ w.handles as) → ∃ x, a.term? = some x ∧
      ∀ rest, Term.Ends rest → Term.readFront? (a.render ++ rest) = some (x, rest) ∧
        Term.readFront? ('(' :: a.render ++ ')' :: rest) = some (x, rest)) ∧
    (∀ a b : Arg, a.Plain → b.Plain → (∀ h ∈ a.handles ++ b.handles, h ∈ w.handles as) →
      a.render = b.render →
        a.term? = b.term? ∧ (Arg.Distinguished a.handles b.handles → a = b)) ∧
    (∀ a : Arg, a.Plain → (∀ h ∈ a.handles, h ∈ w.handles as) →
      (Arg.tuple [a]).render ≠ '(' :: a.render ++ [')']) ∧
    [(Arg.list []).render, (Arg.tuple []).render, (Arg.map []).render].Nodup ∧
    ∀ n : Int, (Arg.ofInt n).render = (toString n).toList ∧
      ∀ rest, Term.Ends rest →
        Term.readFront? ((Arg.ofInt n).render ++ rest) = some (.int n, rest) := by
  refine ⟨?_, ?_, ?_, by decide, ?_⟩
  · intro a ha hbuilt
    obtain ⟨x, hx⟩ := ha.term?
    have hnamed := named_of_handles hopen hbuilt
    exact ⟨x, hx, fun rest hrest =>
      ⟨Arg.readFront?_render hx hnamed hrest, Arg.readFront?_parenthesised hx hnamed hrest⟩⟩
  · intro a b ha hb hbuilt hrender
    obtain ⟨x, hx⟩ := ha.term?
    obtain ⟨y, hy⟩ := hb.term?
    have hnamed : a.Named :=
      named_of_handles hopen fun h hh => hbuilt h (List.mem_append_left _ hh)
    have hnamed' : b.Named :=
      named_of_handles hopen fun h hh => hbuilt h (List.mem_append_right _ hh)
    obtain rfl := Arg.eq_of_render_eq hx hy hnamed hnamed' hrender
    exact ⟨hx.trans hy.symm, Arg.eq_of_term? a b hx hy⟩
  · exact fun a ha hbuilt => Arg.render_singleton_ne ha (named_of_handles hopen hbuilt)
  · intro n
    have hint : (Arg.ofInt n).render = (Arg.int n).render := by
      unfold Arg.ofInt
      split <;> rfl
    refine ⟨Arg.render_ofInt n, fun rest hrest => ?_⟩
    rw [hint]
    exact Arg.readFront?_render (a := .int n) rfl nofun hrest

/-- A key that would end its literal, twice, with values that are nested. -/
def repeatedKeys : Arg :=
  .map [(.str ['"', ']', '\\', '\n'], .tuple [.int (-7)]),
    (.str ['"', ']', '\\', '\n'], .list [.handle ⟨0, ['i', 'f'], 0⟩, .tuple [], .null])]

theorem literals_read_back_repeatedKeys :
    Opened (fun _ => ['i', 'f']) (fun _ => false) branching ∧
    repeatedKeys.Plain ∧ (∀ h ∈ repeatedKeys.handles, h ∈ branching.handles branchingActions) ∧
    Term.Ends [']', '.', 'x'] ∧
    Term.readFront? (repeatedKeys.render ++ [']', '.', 'x']) =
      some (.map [(.str ['"', ']', '\\', '\n'], .tuple [.int (-7)]),
        (.str ['"', ']', '\\', '\n'], .list [.name ['i', 'f', '0'], .tuple [], .null])],
        [']', '.', 'x']) := by
  have hopen : Opened (fun _ => ['i', 'f']) (fun _ => false) branching := fun _ => rfl
  have hplain : repeatedKeys.Plain := by
    have htuple : (Arg.tuple [.int (-7)]).Plain := .tuple (by simp [Arg.Plain.int])
    have hlist : (Arg.list [.handle ⟨0, ['i', 'f'], 0⟩, .tuple [], .null]).Plain :=
      .list (by simp [Arg.Plain.handle, Arg.Plain.tuple, Arg.Plain.null])
    exact .map (by simp [Arg.Plain.str]) (by simp [htuple, hlist])
  have hbuilt : ∀ h ∈ repeatedKeys.handles, h ∈ branching.handles branchingActions := by
    decide +kernel
  have hends : Term.Ends [']', '.', 'x'] := Term.ends_cons (by decide) _
  obtain ⟨x, hx, hread⟩ := (literals_read_back hopen branchingActions).1 _ hplain hbuilt
  cases hx
  exact ⟨hopen, hplain, hbuilt, hends, (hread _ hends).1⟩

end Program

end RemoteInterpreter
